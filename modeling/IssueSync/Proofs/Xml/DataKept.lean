import IssueSync.Proofs.Xml.NamesKept

/-! # Character data in markup that is read again

The data of a document are its texts, attribute values, comments and processing
instructions, in order. In a document without namespace declarations the data of
the markup are those of the document, each of them read again
(`Node.Accepted.dataInside_reread`); when all are read as they were, the markup is
read as the document itself (`Document.Accepted.parse?_markup_of_kept`). So data
are kept exactly when each of them is (`Document.dataKept_iff_forall`).
-/

namespace IssueSync.Xml

/-- A text, an attribute value, a comment or a processing instruction. -/
inductive Datum where
  | text (content : String)
  | value (content : String)
  | comment (content : String)
  | instruction (target : String) (value : Option String)
  deriving DecidableEq, Repr

mutual

/-- The character data of a node, in the order of the document. -/
def Node.data : Node → List Datum
  | .element _ _ attributes content =>
      attributes.map (fun item => .value item.value) ++ Node.dataInside content
  | .text content => [.text content]
  | .comment content => [.comment content]
  | .instruction target value => [.instruction target value]

/-- The data of several nodes. -/
def Node.dataInside : List Node → List Datum
  | [] => []
  | node :: rest => Node.data node ++ Node.dataInside rest

end

/-- The data of a document, in document order. -/
def Document.data (document : Document) : List Datum :=
  Node.dataInside document.nodes

namespace Datum

/-- What the datum is read as. -/
def again : Datum → List Datum
  | .text content => if content = "" then [] else [.text (textAgain content)]
  | .value content => [.value (valueAgain content)]
  | .comment content => [.comment content]
  | .instruction target content => [.instruction target content]

/-- The datum is not refused. -/
def Readable : Datum → Prop
  | .instruction target content => ¬ IsMisread target content
  | _ => True

/-- The datum is read as it was. -/
def Kept : Datum → Prop
  | .text content => content ≠ "" ∧ ReturnsKept false content.toList
  | .value content => SpacesOnly content
  | .comment _ => True
  | .instruction target content => ¬ IsMisread target content

instance : (datum : Datum) → Decidable datum.Kept
  | .text content =>
      inferInstanceAs (Decidable (content ≠ "" ∧ ReturnsKept false content.toList))
  | .value content => inferInstanceAs (Decidable (SpacesOnly content))
  | .comment _ => .isTrue trivial
  | .instruction target content => inferInstanceAs (Decidable (¬ IsMisread target content))

/-- A datum comes back as one datum or not at all. -/
theorem length_again_le (datum : Datum) : datum.again.length ≤ 1 := by
  cases datum with
  | text content =>
      rw [again]
      split
      · exact Nat.zero_le 1
      · exact Nat.le_refl 1
  | value content => exact Nat.le_refl 1
  | comment content => exact Nat.le_refl 1
  | instruction target value => exact Nat.le_refl 1

/-- A datum is kept when it is read back and comes back as itself. -/
theorem kept_iff {datum : Datum} : datum.Kept ↔ datum.Readable ∧ datum.again = [datum] := by
  cases datum with
  | text content =>
      by_cases blank : content = ""
      · simp [Kept, again, blank]
      · simp [Kept, Readable, again, blank, textAgain_eq_iff]
  | value content => simp [Kept, Readable, again, valueAgain_eq_iff]
  | comment content => simp [Kept, Readable, again]
  | instruction target value => simp [Kept, Readable, again]

end Datum

/-- The markup of the document is a document again, with the same data. -/
def Document.DataKept (document : Document) : Prop :=
  ∃ again, Document.parse? document.markup = some again ∧ again.data = document.data

theorem length_flatMap_again_le (data : List Datum) :
    (data.flatMap Datum.again).length ≤ data.length := by
  induction data with
  | nil => exact Nat.le_refl 0
  | cons datum rest ih =>
      have first := datum.length_again_le
      rw [List.flatMap_cons, List.length_append, List.length_cons]
      omega

/-- Where nothing is lost and nothing changed, each datum comes back as it was. -/
theorem again_of_flatMap_again_eq {data : List Datum} (same : data.flatMap Datum.again = data) :
    ∀ datum ∈ data, datum.again = [datum] := by
  induction data with
  | nil => exact List.forall_mem_nil _
  | cons datum rest ih =>
      have restLength := length_flatMap_again_le rest
      rw [List.flatMap_cons] at same
      match found : datum.again, datum.length_again_le with
      | [], _ =>
          rw [found, List.nil_append] at same
          have lengths := congrArg List.length same
          rw [List.length_cons] at lengths
          omega
      | [single], _ =>
          rw [found, List.singleton_append] at same
          obtain ⟨rfl, restSame⟩ := List.cons.inj same
          exact List.forall_mem_cons.mpr ⟨found, ih restSame⟩

theorem Node.dataInside_append (first second : List Node) :
    Node.dataInside (first ++ second) = Node.dataInside first ++ Node.dataInside second := by
  induction first with
  | nil => rfl
  | cons node rest ih =>
      rw [List.cons_append, Node.dataInside, Node.dataInside, ih, List.append_assoc]

/-! ### Nodes without declarations -/

theorem Scope.Hosts.keepsTag_nil {name : ExpandedName} {attributes : List Attribute}
    (hosts : Scope.Hosts [] name attributes) : Scope.KeepsTag [] name attributes where
  element uri given := by
    obtain ⟨label, bound⟩ := hosts.bound uri given
    cases bound
  attributes item member uri given := by
    rcases (hosts.sound item member).bound uri given with reserved | ⟨label, bound⟩
    · exact .inl reserved
    · cases bound

theorem Scope.reopened_nil : Scope.Reopened [] [] [] :=
  ⟨Scope.sound_nil, Scope.sound_nil, Scope.distinct_nil, Scope.distinct_nil, Scope.readAs_nil⟩

/-- Without declarations every tag opens its element again. -/
theorem reread?_undeclared {name : ExpandedName} {attributes : List Attribute}
    {content : List Node} (hosts : Scope.Hosts [] name attributes) :
    Node.reread? [] [] (.element name [] attributes content) =
      (Node.rereadInside? [] [] content).map fun nodes =>
        [.element name [] (attributes.map Attribute.again) nodes] := by
  have opened := Scope.reopened_nil.openElement?_eq hosts hosts.keepsTag_nil
  rw [Node.reread?]
  change (openElement? [] (Scope.writtenName (Scope.extend [] []) name) _).bind _ = _
  rw [opened]
  rfl

/-- Every datum of nodes that are read again was readable, and comes back. -/
theorem dataInside_rereadInside? {nodes again : List Node}
    (each : ∀ node ∈ nodes, ∀ again, node.reread? [] [] = some again →
      (∀ datum ∈ node.data, datum.Readable) ∧
        Node.dataInside again = node.data.flatMap Datum.again)
    (found : Node.rereadInside? [] [] nodes = some again) :
    (∀ datum ∈ Node.dataInside nodes, datum.Readable) ∧
      Node.dataInside again = (Node.dataInside nodes).flatMap Datum.again := by
  induction nodes generalizing again with
  | nil =>
      cases found
      exact ⟨List.forall_mem_nil _, rfl⟩
  | cons node rest ih =>
      obtain ⟨head, later⟩ := List.forall_mem_cons.mp each
      rw [Node.rereadInside?] at found
      obtain ⟨first, firstFound, tail⟩ := Option.bind_eq_some_iff.mp found
      obtain ⟨more, restFound, rfl⟩ := Option.map_eq_some_iff.mp tail
      obtain ⟨firstReadable, firstData⟩ := head first firstFound
      obtain ⟨restReadable, restData⟩ := ih later restFound
      rw [Node.dataInside, Node.dataInside_append, firstData, restData, List.flatMap_append]
      exact ⟨List.forall_mem_append.mpr ⟨firstReadable, restReadable⟩, rfl⟩

/-- A node without declarations is read back with its data as they come back. -/
theorem Node.Accepted.data_reread {outer : Scope} {node : Node} {again : List Node}
    (accepted : node.Accepted outer) (noScope : outer = [])
    (undeclared : ∀ place ∈ node.places outer, place.node.declared = [])
    (found : node.reread? [] [] = some again) :
    (∀ datum ∈ node.data, datum.Readable) ∧
      Node.dataInside again = node.data.flatMap Datum.again := by
  induction accepted generalizing again with
  | @element outer name declared attributes content sound once hosts inside apart ih =>
      subst noScope
      rw [Node.places, List.forall_mem_cons, forall_mem_placesInside] at undeclared
      obtain ⟨none, undeclaredInside⟩ := undeclared
      change declared = [] at none
      subst none
      rw [reread?_undeclared hosts] at found
      obtain ⟨nodes, insideFound, rfl⟩ := Option.map_eq_some_iff.mp found
      obtain ⟨insideReadable, insideData⟩ := dataInside_rereadInside? (fun node listed again read =>
        ih node listed rfl (undeclaredInside node listed) read) insideFound
      rw [Node.data, Node.dataInside, Node.data, Node.dataInside, List.append_nil, insideData,
        List.flatMap_append, List.map_map]
      refine ⟨List.forall_mem_append.mpr ⟨?_, insideReadable⟩, ?_⟩
      · intro datum member
        obtain ⟨item, -, rfl⟩ := List.mem_map.mp member
        trivial
      · rw [List.flatMap_map]
        have values : attributes.flatMap (fun item => Datum.again (.value item.value)) =
            attributes.map fun item => .value (valueAgain item.value) :=
          List.map_eq_flatMap.symm
        rw [values]
        rfl
  | @text outer content characters =>
      rw [Node.reread?] at found
      cases found
      refine ⟨List.forall_mem_singleton.mpr trivial, ?_⟩
      rw [Node.data, List.flatMap_singleton, Datum.again]
      split
      · rfl
      · rfl
  | comment sound =>
      cases found
      exact ⟨List.forall_mem_singleton.mpr trivial, rfl⟩
  | @instruction outer target value targetSound valueSound =>
      rw [Node.reread?] at found
      split at found
      · cases found
      · next readable =>
          cases found
          exact ⟨List.forall_mem_singleton.mpr readable, rfl⟩

/-- What holds of all data holds of those of each node. -/
theorem forall_mem_dataInside {nodes : List Node} {P : Datum → Prop} :
    (∀ datum ∈ Node.dataInside nodes, P datum) ↔ ∀ node ∈ nodes, ∀ datum ∈ node.data, P datum := by
  induction nodes with
  | nil => simp [Node.dataInside]
  | cons node rest ih => rw [Node.dataInside, List.forall_mem_append, List.forall_mem_cons, ih]

/-- Nodes come back when each one does. -/
theorem rereadInside?_of_each {outer read : Scope} {nodes : List Node}
    (each : ∀ node ∈ nodes, node.reread? outer read = some [node]) :
    Node.rereadInside? outer read nodes = some nodes := by
  induction nodes with
  | nil => rfl
  | cons node rest ih =>
      obtain ⟨first, later⟩ := List.forall_mem_cons.mp each
      rw [Node.rereadInside?, first, ih later]
      rfl

/-- A node whose data are kept is read as it was. -/
theorem Node.Accepted.reread?_of_kept {outer : Scope} {node : Node}
    (accepted : node.Accepted outer) (noScope : outer = [])
    (undeclared : ∀ place ∈ node.places outer, place.node.declared = [])
    (kept : ∀ datum ∈ node.data, datum.Kept) : node.reread? [] [] = some [node] := by
  induction accepted with
  | @element outer name declared attributes content sound once hosts inside apart ih =>
      subst noScope
      rw [Node.places, List.forall_mem_cons, forall_mem_placesInside] at undeclared
      obtain ⟨none, undeclaredInside⟩ := undeclared
      change declared = [] at none
      subst none
      rw [Node.data, List.forall_mem_append, forall_mem_dataInside] at kept
      obtain ⟨valuesKept, insideKept⟩ := kept
      have attributesSame : attributes.map Attribute.again = attributes := by
        refine (List.map_congr_left fun item member => ?_).trans (List.map_id attributes)
        have spaces : SpacesOnly item.value := valuesKept _ (List.mem_map_of_mem member)
        rw [Attribute.again, valueAgain_eq_iff.mpr spaces]
        rfl
      have contentSame : Node.rereadInside? [] [] content = some content :=
        rereadInside?_of_each fun node listed =>
          ih node listed rfl (undeclaredInside node listed) (insideKept node listed)
      rw [reread?_undeclared hosts, contentSame, attributesSame]
      rfl
  | @text outer content characters =>
      obtain ⟨filled, returns⟩ := kept _ List.mem_cons_self
      rw [Node.reread?, if_neg filled, textAgain_eq_iff.mpr returns]
  | comment sound => rfl
  | @instruction outer target value targetSound valueSound =>
      have readable : ¬ IsMisread target value := kept _ List.mem_cons_self
      rw [Node.reread?, if_neg readable]

/-! ### Documents without declarations -/

/-- No tag of the document declares a namespace. -/
def Document.Undeclared (document : Document) : Prop :=
  ∀ place ∈ document.places, place.node.declared = []

instance (document : Document) : Decidable document.Undeclared :=
  List.decidableBAll _ _

namespace Document.Accepted

variable {document : Document}

/-- A document whose data are kept is read as it was. -/
theorem parse?_markup_of_kept (accepted : document.Accepted) (undeclared : document.Undeclared)
    (kept : ∀ datum ∈ document.data, datum.Kept) :
    Document.parse? document.markup = some document := by
  refine accepted.parse?_markup_of_reread (rereadInside?_of_each fun node listed => ?_)
  exact (accepted.nodes node listed).reread?_of_kept rfl
    (forall_mem_placesInside.mp undeclared node listed)
    (forall_mem_dataInside.mp kept node listed)

/-- A document without declarations keeps its data exactly when each datum is kept. -/
theorem dataKept_iff (accepted : document.Accepted) (undeclared : document.Undeclared) :
    document.DataKept ↔ ∀ datum ∈ document.data, datum.Kept := by
  constructor
  · rintro ⟨again, parsed, same⟩
    have each : ∀ node ∈ document.nodes, ∀ again, node.reread? [] [] = some again →
        (∀ datum ∈ node.data, datum.Readable) ∧
          Node.dataInside again = node.data.flatMap Datum.again := fun node listed again found =>
      (accepted.nodes node listed).data_reread rfl
        (forall_mem_placesInside.mp undeclared node listed) found
    rcases accepted.reread_of_parse?_markup parsed with found | ⟨target, value, rest, nodes, found⟩
    · obtain ⟨readable, dataAgain⟩ := dataInside_rereadInside? each found
      have unchanged := again_of_flatMap_again_eq (dataAgain.symm.trans same)
      exact fun datum member =>
        Datum.kept_iff.mpr ⟨readable datum member, unchanged datum member⟩
    · -- The datum of the first node would be missing.
      rw [nodes] at each
      obtain ⟨-, dataAgain⟩ :=
        dataInside_rereadInside? (List.forall_mem_cons.mp each).2 found
      have lengths := congrArg List.length same
      have restLength := length_flatMap_again_le (Node.dataInside rest)
      rw [← dataAgain] at restLength
      rw [Document.data, Document.data, nodes, Node.dataInside, Node.data, List.length_append,
        List.length_singleton] at lengths
      omega
  · intro kept
    exact ⟨document, accepted.parse?_markup_of_kept undeclared kept, rfl⟩

end Document.Accepted

/-- **Data in markup.** For an accepted document without namespace declarations,
the markup is a document again with the same texts, attribute values, comments
and processing instructions if and only if: no text is empty, and its carriage
returns stand before characters that are written as references or, at its end,
behind one; attribute values hold no white space but spaces; and no processing
instruction has the target `xml` and a value. -/
theorem Document.dataKept_iff_forall {text : String} {document : Document}
    (parsed : Document.parse? text = some document) (undeclared : document.Undeclared) :
    document.DataKept ↔ ∀ datum ∈ document.data, datum.Kept :=
  (Document.parse?_accepted parsed).dataKept_iff undeclared

/-- Characters from references, entities and a `CDATA` section, a carriage return
before a bracket, a comment and processing instructions. -/
def referencedText : String :=
  "<?q?><a x='&lt;&quot;&#32;'>&amp;<![CDATA[<&]]><!-- - --><?p v??>&#13;&gt;</a>"

set_option maxRecDepth 8000 in
/-- A document with references and instructions, all of which are kept. -/
theorem dataKept_referencedText :
    ∃ document, Document.parse? referencedText = some document ∧ document.Undeclared ∧
      document.data = [.instruction "q" none, .value "<\" ", .text "&<&", .comment " - ",
        .instruction "p" (some "v?"), .text "\r>"] ∧ document.DataKept := by
  have read : (Document.parse? referencedText).any (fun document =>
      decide (document.Undeclared ∧ document.data = [.instruction "q" none, .value "<\" ",
        .text "&<&", .comment " - ", .instruction "p" (some "v?"), .text "\r>"] ∧
        ∀ datum ∈ document.data, datum.Kept)) = true :=
    (congrArg (Option.any _) (Document.parse?_ofList _)).trans (by decide +kernel)
  obtain ⟨document, parsed, checks⟩ := (Option.any_eq_true _ _).mp read
  obtain ⟨undeclared, data, kept⟩ := of_decide_eq_true checks
  exact ⟨document, parsed, undeclared, data,
    (Document.dataKept_iff_forall parsed undeclared).mpr kept⟩

/-- A line feed in an attribute value, from a reference. -/
def lineFeedText : String :=
  "<a x='1&#10;2'/>"

/-- The line feed is written as it is, and would be read as a space. -/
theorem not_dataKept_lineFeedText :
    ∃ document, Document.parse? lineFeedText = some document ∧ document.Undeclared ∧
      document.data = [.value "1\n2"] ∧ document.markup = "<a x=\"1\n2\"/>" ∧
      ¬ document.DataKept := by
  have read : (Document.parse? lineFeedText).any (fun document =>
      decide (document.Undeclared ∧ document.data = [.value "1\n2"] ∧
        document.markup = "<a x=\"1\n2\"/>" ∧
        ¬ ∀ datum ∈ document.data, datum.Kept)) = true :=
    (congrArg (Option.any _) (Document.parse?_ofList _)).trans (by decide +kernel)
  obtain ⟨document, parsed, checks⟩ := (Option.any_eq_true _ _).mp read
  obtain ⟨undeclared, data, markup, changed⟩ := of_decide_eq_true checks
  refine ⟨document, parsed, undeclared, data, markup, fun kept => changed ?_⟩
  exact ((Document.parse?_accepted parsed).dataKept_iff undeclared).mp kept

end IssueSync.Xml
