import Mathlib.Data.List.Basic

/-! The parts of a `qd_message_t` the receive path reads and writes: the parsed
message-annotations map, the property fields, and the router's overlay annotations; with the
address iterators built from them. message.c, parse.c and iterator.c are not under src/: their
functions used here are modelled from the spec. -/

namespace DispatchRouter.Message

/-- A parsed AMQP value: its raw octets, and for a scalar its integer value, for a list the raw
octets of its items. -/
inductive QdParsedField where
  | scalar (raw : List Char) (asInt : Int)
  | list (raw : List Char) (items : List (List Char))
  | map (raw : List Char)
  deriving DecidableEq, Repr

namespace QdParsedField

/-- `qd_parse_raw`. -/
def raw : QdParsedField → List Char
  | .scalar raw _ | .list raw _ | .map raw => raw

/-- Modelled from the spec: `qd_parse_as_int`, the integer value of a scalar, 0 otherwise. -/
def asInt : QdParsedField → Int
  | .scalar _ value => value
  | _ => 0

end QdParsedField

/-- A parsed map: each entry's key, by its raw octets (`none` when `qd_parse_sub_key` or
`qd_parse_raw` yields null), and its value. -/
abbrev QdParsedMap := List (Option (List Char) × QdParsedField)

/-- Modelled from the spec: `qd_parse_value_by_key`, the value bound to `key`, the first one if the
key repeats. -/
def qdParseValueByKey (map : QdParsedMap) (key : List Char) : Option QdParsedField :=
  (map.find? (·.1 = some key)).map (·.2)

/-- Modelled from the spec: the message-annotation keys of the wire format. -/
def qdMaTrace : List Char := "x-opt-qd.trace".toList
def qdMaIngress : List Char := "x-opt-qd.ingress".toList
def qdMaTo : List Char := "x-opt-qd.to".toList
def qdMaPhase : List Char := "x-opt-qd.phase".toList

/-- `qd_message_depth_t`: the two depths the receive path validates to. -/
inductive QdMessageDepth where
  | messageAnnotations
  | properties
  deriving DecidableEq, Repr

/-- A received message. `check` is `qd_message_check` at each depth; `userId` and `propertiesTo` are the
properties' fields and `annotations` the message-annotations map (`none` when absent). The other
fields are the router's overlay annotations. -/
structure QdMessage where
  check : QdMessageDepth → Bool
  userId : Option (List Char)
  propertiesTo : Option (List Char)
  annotations : Option QdParsedMap
  traceAnnotation : Option (List (List Char))
  toOverrideAnnotation : Option (List Char)
  phaseAnnotation : Int
  ingressAnnotation : Option (List Char)

/-- The sections a client sends, apart from the message annotations, agree. -/
def SameButAnnotations (msg msg' : QdMessage) : Prop :=
  msg' = { msg with annotations := msg'.annotations }

/-- `qd_iterator_view_t`: the views the receive path puts on an address iterator. -/
inductive QdIteratorView where
  | all
  | addressHash
  | addressWithSpace
  deriving DecidableEq, Repr

/-- A `qd_iterator_t` over an address, with the tenant space and phase annotated on it. -/
structure QdIterator where
  text : List Char
  view : QdIteratorView
  space : Option (List Char)
  phase : Option Char
  deriving DecidableEq, Repr

namespace QdIterator

/-- `qd_iterator_string`, and the view `qd_parse_raw` or `qd_message_field_iterator` give. -/
def string (text : List Char) (view : QdIteratorView) : QdIterator := ⟨text, view, none, none⟩

/-- `qd_iterator_reset_view`. -/
def resetView (iter : QdIterator) (view : QdIteratorView) : QdIterator := { iter with view }

/-- Modelled from the spec: `qd_iterator_annotate_space`, the tenant-space prefix. -/
def annotateSpace (iter : QdIterator) (space : List Char) : QdIterator :=
  { iter with space := some space }

/-- Modelled from the spec: `qd_iterator_annotate_phase`, the phase character. -/
def annotatePhase (iter : QdIterator) (phase : Char) : QdIterator := { iter with phase := some phase }

/-- Modelled from the spec: the octets `qd_compose_insert_string_iterator` copies out of an
iterator, prefixed by its tenant space under `ITER_VIEW_ADDRESS_WITH_SPACE`. -/
def octets (iter : QdIterator) : List Char :=
  match iter.view, iter.space with
  | .addressWithSpace, some space => space ++ iter.text
  | _, _ => iter.text

@[simp] theorem resetView_space (iter : QdIterator) (view : QdIteratorView) :
    (iter.resetView view).space = iter.space := rfl

@[simp] theorem annotatePhase_space (iter : QdIterator) (phase : Char) :
    (iter.annotatePhase phase).space = iter.space := rfl

@[simp] theorem annotateSpace_space (iter : QdIterator) (space : List Char) :
    (iter.annotateSpace space).space = some space := rfl

end QdIterator

end DispatchRouter.Message
