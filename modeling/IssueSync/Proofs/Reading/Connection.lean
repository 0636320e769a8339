import IssueSync.Proofs.Xml.Frame
import IssueSync.Rule.Reading

/-! # What the first connection of a mapping says

The headers of a mapping are those of its first connection, over all `headers`
in it; of the headers of one name the last that has a value counts
(`Place.Sends`), and a header without a name or a value counts for nothing
(`readHeaders_eq_of_not_isComplete`). What stands behind the first connection, further
connections included, has no say in what is sent to the remote system
(`connection_of_readMapping`).
-/

namespace IssueSync

open Xml (Frame Node Place Scope)

namespace Xml.Place

/-- The headers of a connection, from all `headers` in it. -/
def headers (connection : Place) : List Place :=
  connection.grandchildren "headers" "header"

/-- The header has this name and this value, which may be empty. -/
def IsHeader (header : Place) (name value : String) : Prop :=
  header.node.attribute? "name" = some name ∧ header.node.attribute? "value" = some value

/-- The header has a name that is not empty, and a value. -/
def IsComplete (header : Place) : Prop :=
  ∃ name value, name ≠ "" ∧ header.IsHeader name value

/-- The value is that of the last header of this name. -/
def Sends (connection : Place) (name value : String) : Prop :=
  name ≠ "" ∧ ∃ before header after, connection.headers = before ++ header :: after ∧
    header.IsHeader name value ∧ ∀ later ∈ after, ∀ other, ¬ later.IsHeader name other

/-- A type that is not blank is among the types of the connection, up to the
blank characters around it. -/
def AsksFor (connection : Place) (rdfType : String) : Prop :=
  rdfType ≠ "" ∧ ∃ item ∈ connection.grandchildren "rdfTypes" "rdfType",
    ∃ value, item.node.attribute? "value" = some value ∧ Text.trim value = rdfType

end Xml.Place

/-! ### Headers -/

/-- The name and the value of a header that is complete. -/
def headerEntry? (header : Place) : Option (String × String) :=
  match header.node.filledAttribute? "name", header.node.attribute? "value" with
  | some name, some value => some (name, value)
  | _, _ => none

/-- The headers are a map of the entries, in which the last one of a name counts. -/
theorem readHeaders_eq_ofList (connection : Place) :
    readHeaders connection = TextMap.ofList (connection.headers.filterMap headerEntry?) :=
  rfl

/-- An entry comes from a header with a name and a value. -/
theorem headerEntry?_eq_some_iff {header : Place} {name value : String} :
    headerEntry? header = some (name, value) ↔ name ≠ "" ∧ header.IsHeader name value := by
  have whole : headerEntry? header = (header.node.filledAttribute? "name").bind fun name =>
      (header.node.attribute? "value").map (name, ·) := by
    unfold headerEntry?
    cases header.node.filledAttribute? "name" with
    | none => rfl
    | some name =>
        cases header.node.attribute? "value" with
        | none => rfl
        | some value => rfl
  rw [whole, Option.bind_eq_some_iff]
  constructor
  · rintro ⟨given, filled, pair⟩
    obtain ⟨text, valued, same⟩ := Option.map_eq_some_iff.mp pair
    obtain ⟨named, notEmpty⟩ := Option.filter_eq_some_iff.mp filled
    cases same
    exact ⟨of_decide_eq_true notEmpty, named, valued⟩
  · rintro ⟨notEmpty, named, valued⟩
    refine ⟨name, Option.filter_eq_some_iff.mpr ⟨named, decide_eq_true notEmpty⟩, ?_⟩
    rw [valued, Option.map_some]

/-- The value of a header is the one that the connection sends. -/
theorem get?_readHeaders_eq_some_iff {connection : Place} {name value : String} :
    (readHeaders connection).get? name = some value ↔ connection.Sends name value := by
  rw [readHeaders_eq_ofList, TextMap.get?_ofList_filterMap_eq_some_iff]
  constructor
  · rintro ⟨before, header, after, split, given, last⟩
    obtain ⟨filled, isHeader⟩ := headerEntry?_eq_some_iff.mp given
    refine ⟨filled, before, header, after, split, isHeader, fun later listed other again => ?_⟩
    exact last later listed other (headerEntry?_eq_some_iff.mpr ⟨filled, again⟩)
  · rintro ⟨filled, before, header, after, split, isHeader, last⟩
    refine ⟨before, header, after, split, headerEntry?_eq_some_iff.mpr ⟨filled, isHeader⟩, ?_⟩
    intro later listed other given
    exact last later listed other (headerEntry?_eq_some_iff.mp given).2

/-- A header that is not complete neither adds an entry nor takes one away. -/
theorem readHeaders_eq_of_not_isComplete {connection other header : Place}
    {front back : List Place} (incomplete : ¬ header.IsComplete)
    (some : connection.headers = front ++ header :: back)
    (without : other.headers = front ++ back) :
    readHeaders connection = readHeaders other := by
  have none : headerEntry? header = none := by
    rw [Option.eq_none_iff_forall_ne_some]
    rintro ⟨name, value⟩ given
    obtain ⟨filled, isHeader⟩ := headerEntry?_eq_some_iff.mp given
    exact incomplete ⟨name, value, filled, isHeader⟩
  rw [readHeaders_eq_ofList, readHeaders_eq_ofList, some, without, List.filterMap_append,
    List.filterMap_append, List.filterMap_cons_none none]

/-! ### Types -/

/-- The types are those that the connection asks for. -/
theorem mem_readRdfTypes {connection : Place} {rdfType : String} :
    rdfType ∈ readRdfTypes connection ↔ connection.AsksFor rdfType := by
  unfold readRdfTypes Place.AsksFor
  rw [TextSet.mem_ofList, List.mem_filterMap]
  constructor
  · rintro ⟨item, listed, given⟩
    obtain ⟨value, valued, trimmed⟩ := Option.bind_eq_some_iff.mp given
    unfold Text.trimmed? at trimmed
    split at trimmed
    · cases trimmed
    · next filled =>
        cases trimmed
        exact ⟨filled, item, listed, value, valued, rfl⟩
  · rintro ⟨filled, item, listed, value, valued, rfl⟩
    refine ⟨item, listed, ?_⟩
    rw [valued, Option.bind_some, Text.trimmed?, if_neg filled]

/-! ### The first connection -/

/-- The headers of a mapping come from its first connection. -/
theorem get?_headers_readMapping_eq_some_iff {direction : Direction} {element : Place}
    {name value : String} :
    (readMapping direction element).headers.get? name = some value ↔
      ∃ connection, element.child? "connection" = some connection ∧
        connection.Sends name value := by
  change ((((element.child? "connection").map readHeaders).getD ∅ : TextMap String).get? name =
    some value) ↔ _
  cases element.child? "connection" with
  | none => simp
  | some connection => simp [get?_readHeaders_eq_some_iff]

/-- The types of a mapping come from its first connection. -/
theorem mem_rdfTypes_readMapping {direction : Direction} {element : Place} {rdfType : String} :
    rdfType ∈ (readMapping direction element).rdfTypes ↔
      ∃ connection, element.child? "connection" = some connection ∧
        connection.AsksFor rdfType := by
  change (rdfType ∈ (((element.child? "connection").map readRdfTypes).getD ∅ : TextSet)) ↔ _
  cases element.child? "connection" with
  | none => simp
  | some connection => simp [mem_readRdfTypes]

/-- What a mapping says about the remote system. -/
def Mapping.remote (mapping : Mapping) : TextMap String × TextSet × Option String × Option String :=
  (mapping.headers, mapping.rdfTypes, mapping.username, mapping.password)

/-- What is said about the remote system depends on the first connection only. -/
theorem remote_readMapping_eq {direction : Direction} {element other : Place}
    (same : element.child? "connection" = other.child? "connection") :
    (readMapping direction element).remote = (readMapping direction other).remote := by
  unfold Mapping.remote readMapping
  rw [same]

/-- **The first connection counts, and in it the last header of a name.** A
mapping sends a header when the last one of this name that has a value, in the
first connection, has this value; headers that are not complete can be left out.
It asks for the types of that connection, trimmed, that are not blank. Whatever
stands behind the first connection of a mapping leaves headers, types, user name
and password as they are. -/
theorem connection_of_readMapping (direction : Direction) :
    (∀ element name value, (readMapping direction element).headers.get? name = some value ↔
        ∃ connection, element.child? "connection" = some connection ∧
          connection.Sends name value) ∧
      (∀ element rdfType, rdfType ∈ (readMapping direction element).rdfTypes ↔
        ∃ connection, element.child? "connection" = some connection ∧
          connection.AsksFor rdfType) ∧
      (∀ (connection other header : Place) (front back : List Place), ¬ header.IsComplete →
        connection.headers = front ++ header :: back → other.headers = front ++ back →
          readHeaders connection = readHeaders other) ∧
      ∀ (outer : Scope) (mapping connection : Frame) (content after : List Node),
        connection.name.localName = "connection" →
          (∀ node ∈ connection.before, node.isNamed "connection" = false) →
            (readMapping direction (mapping.place outer (connection.around content))).remote =
              (readMapping direction
                (mapping.place outer ({ connection with after }.around content))).remote := by
  refine ⟨fun _ _ _ => get?_headers_readMapping_eq_some_iff,
    fun _ _ => mem_rdfTypes_readMapping,
    fun _ _ _ _ _ => readHeaders_eq_of_not_isComplete, ?_⟩
  intro outer mapping connection content after named first
  let other : Frame := { connection with after }
  have same : (mapping.place outer (other.around content)).child? "connection" =
      some (other.place (mapping.scope outer) content) :=
    Frame.child?_around_of_first named first
  apply remote_readMapping_eq
  rw [Frame.child?_around_of_first named first]
  exact same.symm

/-- A header whose last value is empty, one without a value, and a second
connection with another user. -/
theorem connection_of_readMapping_twoConnections :
    let element (name : String) (attributes : List (String × String)) (content : List Node) :=
      Node.element ⟨none, name⟩ [] (attributes.map fun (key, text) => ⟨⟨none, key⟩, text⟩) content
    let header (attributes : List (String × String)) := element "header" attributes []
    let mapping : Frame := ⟨[], ⟨none, "mappingIn"⟩, [], [], []⟩
    let connection : Frame :=
      ⟨[.text "\n"], ⟨none, "connection"⟩, [], [⟨⟨none, "username"⟩, "jane"⟩], []⟩
    let full := [header [("name", "A"), ("value", "1")], header [("name", "A"), ("value", "")]]
    let content := [element "headers" [] full, element "headers" [] [header [("name", "A")]]]
    let read (content : List Node) := readMapping .inbound
      (mapping.place [] (connection.around content))
    (∀ node ∈ connection.before, node.isNamed "connection" = false) ∧
      (read content).headers.get? "A" = some "" ∧
      (∃ found, Place.Sends found "A" "") ∧
      ¬ Place.IsComplete ⟨[], header [("name", "A")]⟩ ∧
      (read content).headers = (read [element "headers" [] full]).headers ∧
      (read content).remote = (readMapping .inbound (mapping.place []
        (Frame.around { connection with after := [element "connection" [("username", "john")] []] }
          content))).remote := by
  intro element header mapping connection full content read
  obtain ⟨headers, -, skipped, later⟩ := connection_of_readMapping .inbound
  have none : ∀ node ∈ connection.before, node.isNamed "connection" = false := by decide
  have value : (read content).headers.get? "A" = some "" := by decide +kernel
  have incomplete : ¬ Place.IsComplete ⟨[], header [("name", "A")]⟩ := by
    rintro ⟨name, text, -, -, valued⟩
    cases valued
  obtain ⟨found, -, sends⟩ := (headers _ _ _).mp value
  refine ⟨none, value, ⟨found, sends⟩, incomplete, ?_,
    later [] mapping connection content _ rfl none⟩
  exact skipped (connection.place [] content) (connection.place [] [element "headers" [] full]) _
    [⟨[], header [("name", "A"), ("value", "1")]⟩, ⟨[], header [("name", "A"), ("value", "")]⟩] []
    incomplete rfl rfl

end IssueSync
