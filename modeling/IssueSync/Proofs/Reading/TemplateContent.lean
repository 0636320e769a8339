import IssueSync.Proofs.Reading.MappingPlaces

/-! # Replacing the content of a template

The content of a template element reaches the template as its text, and the
rest of its configuration not at all (`readConfiguration_around`). But every
element `configuration` inside the content is read as a configuration of its
own, wherever it stands. So the configurations of a document stay as they are,
but for the text of that one template, exactly when the old and the new content
hold the same configurations and those around the template's own read the same
(`TemplateSite.readConfigurations_replaced_iff`).
-/

namespace IssueSync

open Xml (Frame Node Place Scope)

/-! ### One template of a mapping -/

section Readers

variable {frame inner group item : Frame} {outer : Scope} {content : List Node}

theorem readTexts_around_of_ne {groupName : String}
    (different : inner.name.localName ≠ groupName) (itemName : String) :
    readTexts (frame.place outer (inner.around content)) groupName itemName =
      readTexts (frame.place outer inner.beside) groupName itemName := by
  rw [readTexts, Frame.grandchildren_around_of_ne _ _ different]
  rfl

/-- The content of a template reaches the template as its text. -/
theorem readTemplate_around (named : inner.name.localName = "template")
    (first : ∀ node ∈ inner.before, node.isNamed "template" = false) :
    readTemplate (frame.place outer (inner.around content)) =
      { readTemplate (frame.place outer inner.beside) with
        text := (inner.place (frame.scope outer) content).contentMarkup } := by
  have values : readValueMapping (frame.place outer (inner.around content)) =
      readValueMapping (frame.place outer inner.beside) := by
    rw [readValueMapping, Frame.children_around_of_ne (by rw [named]; decide),
      Frame.grandchildren_around_of_ne "maps" "map" (by rw [named]; decide)]
    rfl
  have shared : readCorrespondence (frame.place outer (inner.around content)) =
      readCorrespondence (frame.place outer inner.beside) := by
    rw [readCorrespondence, values, Frame.child?_around_of_ne (by rw [named]; decide)]
    rfl
  rw [readTemplate, shared, Frame.child?_around_of_first named first]
  rfl

/-- A template field stands once among the templates of its mapping, and
nothing else of the mapping depends on it. -/
theorem readMapping_around (direction : Direction)
    (grouped : group.name.localName = "templateFields")
    (named : item.name.localName = "templateField") :
    readMapping direction (frame.place outer (group.around (item.around content))) =
      { readMapping direction (frame.place outer group.beside) with
        templates :=
          (group.itemsBefore item (frame.scope outer) "templateFields" "templateField").map
              readTemplate ++
            readTemplate (item.place (group.scope (frame.scope outer)) content) ::
              (group.itemsAfter item (frame.scope outer) "templateFields" "templateField").map
                readTemplate } := by
  rw [readMapping, Frame.child?_around_of_ne (by rw [grouped]; decide),
    Frame.grandchildren_around_of_ne "fields" "field" (by rw [grouped]; decide),
    Frame.children_around_of_ne (by rw [grouped]; decide),
    Frame.grandchildren_around grouped named, List.map_append, List.map_cons]
  rfl

end Readers

theorem modify_length_append {α : Type} (before : List α) (item : α) (after : List α)
    (change : α → α) :
    (before ++ item :: after).modify before.length change = before ++ change item :: after := by
  induction before with
  | nil => rfl
  | cons first rest ih => rw [List.cons_append, List.length_cons, List.modify_succ_cons, ih]; rfl

/-- The mapping with another text for one of its templates. -/
def Mapping.setTemplateText (mapping : Mapping) (position : Nat) (text : String) : Mapping :=
  { mapping with templates := mapping.templates.modify position ({ · with text }) }

namespace Configuration

/-- The configuration with other mappings for one direction. -/
def withMappings (configuration : Configuration) (direction : Direction)
    (mappings : List Mapping) : Configuration :=
  match direction with
  | .inbound => { configuration with inboundMappings := mappings }
  | .outbound => { configuration with outboundMappings := mappings }

/-- Of a direction a configuration has the mappings it was given. -/
@[simp]
theorem mappings_withMappings (configuration : Configuration) (direction : Direction)
    (mappings : List Mapping) :
    (configuration.withMappings direction mappings).mappings direction = mappings := by
  cases direction <;> rfl

/-- The mappings given last count. -/
@[simp]
theorem withMappings_withMappings (configuration : Configuration) (direction : Direction)
    (first second : List Mapping) :
    (configuration.withMappings direction first).withMappings direction second =
      configuration.withMappings direction second := by
  cases direction <;> rfl

/-- The configuration with another text for a template of one of its mappings. -/
def setTemplateText (configuration : Configuration) (direction : Direction)
    (mapping template : Nat) (text : String) : Configuration :=
  configuration.withMappings direction <|
    (configuration.mappings direction).modify mapping (·.setTemplateText template text)

end Configuration

/-- A mapping stands once among those of its direction, and nothing else of the
configuration depends on it. -/
theorem readConfiguration_around {frame group item : Frame} {outer : Scope}
    {content : List Node} (direction : Direction) (grouped : group.name.localName = "mappings")
    (named : item.name.localName = direction.elementName) :
    readConfiguration (frame.place outer (group.around (item.around content))) =
      (readConfiguration (frame.place outer (group.around item.beside))).withMappings direction
        ((group.itemsBefore item (frame.scope outer) "mappings" direction.elementName).map
            (readMapping direction) ++
          readMapping direction (item.place (group.scope (frame.scope outer)) content) ::
            (group.itemsAfter item (frame.scope outer) "mappings" direction.elementName).map
              (readMapping direction)) := by
  have texts : ∀ groupName itemName, "mappings" ≠ groupName →
      readTexts (frame.place outer (group.around (item.around content))) groupName itemName =
        readTexts (frame.place outer (group.around item.beside)) groupName itemName := by
    intro groupName itemName different
    rw [readTexts_around_of_ne (grouped ▸ different), readTexts_around_of_ne (grouped ▸ different)]
  have log : (frame.place outer (group.around (item.around content))).child? "errorLog" =
      (frame.place outer (group.around item.beside)).child? "errorLog" := by
    rw [Frame.child?_around_of_ne (by rw [grouped]; decide),
      Frame.child?_around_of_ne (by rw [grouped]; decide)]
  rw [readConfiguration, texts "projects" _ (by decide), texts "issueTypes" _ (by decide),
    texts "domains" _ (by decide), log]
  cases direction with
  | inbound =>
      rw [Direction.elementName] at named
      rw [Frame.grandchildren_around grouped named,
        Frame.grandchildren_around_item_of_ne "mappings" "mappingOut" (by rw [named]; decide),
        List.map_append, List.map_cons]
      rfl
  | outbound =>
      rw [Direction.elementName] at named
      rw [Frame.grandchildren_around grouped named,
        Frame.grandchildren_around_item_of_ne "mappings" "mappingIn" (by rw [named]; decide),
        List.map_append, List.map_cons]
      rfl

/-! ### Template elements in a document -/

/-- A template element that is read, without its content: the first `template`
of a template field of a mapping of a configuration. -/
structure TemplateSite where
  /-- The elements around the configuration, the outermost first. -/
  outer : List Frame
  configuration : Frame
  mappings : Frame
  mapping : Frame
  fields : Frame
  field : Frame
  template : Frame
  direction : Direction
  enclosed : enclosedAlong false outer = true
  configuration_named : configuration.name.localName = "configuration"
  mappings_named : mappings.name.localName = "mappings"
  mapping_named : mapping.name.localName = direction.elementName
  fields_named : fields.name.localName = "templateFields"
  field_named : field.name.localName = "templateField"
  template_named : template.name.localName = "template"
  first : ∀ node ∈ template.before, node.isNamed "template" = false

namespace TemplateSite

variable (site : TemplateSite)

/-- The elements from inside the configuration to the template. -/
def inner : List Frame :=
  [site.mappings, site.mapping, site.fields, site.field, site.template]

/-- The document with this content in the template element. -/
def document (content : List Node) : Xml.Document :=
  ⟨aroundPath site.outer (site.configuration.around (aroundPath site.inner content))⟩

/-- The declarations in force around the configuration. -/
def outerScope : Scope :=
  pathScope [] site.outer

/-- The declarations in force around the mapping. -/
def mappingScope : Scope :=
  site.mappings.scope (site.configuration.scope site.outerScope)

/-- The declarations in force around the template field. -/
def fieldScope : Scope :=
  site.fields.scope (site.mapping.scope site.mappingScope)

/-- The bindings in scope inside the template element. -/
def contentScope : Scope :=
  pathScope (site.configuration.scope site.outerScope) site.inner

/-- The markup inside the template element. -/
def textOf (content : List Node) : String :=
  (site.template.place (site.field.scope site.fieldScope) content).contentMarkup

/-- The configurations that begin before that of the template. -/
def earlier (content : List Node) : List Configuration :=
  (placesBefore false [] site.outer (site.configuration.around (aroundPath site.inner content)) ++
    configurationPlacesInside true site.outerScope site.configuration.before).map
      readConfiguration

/-- The configurations that have the configuration of the template inside. -/
def surrounding (content : List Node) : List Configuration :=
  (placesAround false [] site.outer (site.configuration.around (aroundPath site.inner content))).map
    readConfiguration

/-- The configuration of the template. -/
def own (content : List Node) : Configuration :=
  readConfiguration (site.configuration.place site.outerScope (aroundPath site.inner content))

/-- What the elements `configuration` inside the template element, at any depth,
are read as. -/
def nested (content : List Node) : List Configuration :=
  ((Node.placesInside site.contentScope content).filter (·.isNamed "configuration")).map
    readConfiguration

/-- The configurations between that of the template and the template. -/
def between : List Configuration :=
  (placesBefore true (site.configuration.scope site.outerScope) site.inner []).map
    readConfiguration

/-- The configurations after the template. -/
def later : List Configuration :=
  (placesAfter true (site.configuration.scope site.outerScope) site.inner ++
    (configurationPlacesInside true site.outerScope site.configuration.after ++
      placesAfter false [] site.outer)).map readConfiguration

/-- How many configurations begin before this one. -/
def configurationPosition : Nat :=
  (site.earlier []).length

/-- The mappings of the same direction before that of the template. -/
def earlierMappings : List Place :=
  site.mappings.itemsBefore site.mapping (site.configuration.scope site.outerScope) "mappings"
    site.direction.elementName

/-- The places of the mappings behind this one. -/
def laterMappings : List Place :=
  site.mappings.itemsAfter site.mapping (site.configuration.scope site.outerScope) "mappings"
    site.direction.elementName

/-- The template fields of the mapping before that of the template. -/
def earlierFields : List Place :=
  site.fields.itemsBefore site.field (site.mapping.scope site.mappingScope) "templateFields"
    "templateField"

/-- The places of the template fields behind this one. -/
def laterFields : List Place :=
  site.fields.itemsAfter site.field (site.mapping.scope site.mappingScope) "templateFields"
    "templateField"

/-- The configurations with another text for the template, and for no other. -/
def setText (configurations : List Configuration) (text : String) : List Configuration :=
  configurations.modify site.configurationPosition
    (·.setTemplateText site.direction site.earlierMappings.length site.earlierFields.length text)

/-- None of the elements between the configuration and the content is a configuration. -/
theorem inner_not_configuration :
    ∀ frame ∈ site.inner, frame.name.localName ≠ "configuration" := by
  intro frame member
  simp only [inner, List.mem_cons, List.not_mem_nil, or_false] at member
  rcases member with rfl | rfl | rfl | rfl | rfl
  · rw [site.mappings_named]
    decide
  · rw [site.mapping_named]
    cases site.direction <;> decide
  · rw [site.fields_named]
    decide
  · rw [site.field_named]
    decide
  · rw [site.template_named]
    decide

/-- What begins between the configuration and the template does not depend on
the content. -/
theorem placesBefore_inner (content : List Node) :
    (placesBefore true (site.configuration.scope site.outerScope) site.inner content).map
      readConfiguration = site.between := by
  rw [between, map_placesBefore_eq_iff, placesAround_eq_nil site.inner_not_configuration,
    placesAround_eq_nil site.inner_not_configuration]

/-- The configurations of the document, in document order. -/
theorem readConfigurations_document (content : List Node) :
    readConfigurations (site.document content) =
      site.earlier content ++
        site.own content :: (site.between ++ (site.nested content ++ site.later)) := by
  have own : ownPlace true site.outerScope site.configuration (aroundPath site.inner content) =
      [site.configuration.place site.outerScope (aroundPath site.inner content)] :=
    if_pos (by rw [site.configuration_named]; rfl)
  rw [readConfigurations, document, configurationPlacesInside_aroundPath, site.enclosed,
    configurationPlacesInside_around, ← outerScope, own, enclosedIn, Bool.true_or,
    configurationPlacesInside_aroundPath, enclosedAlong_true,
    configurationPlacesInside_true _ content]
  simp only [earlier, TemplateSite.own, nested, later, ← site.placesBefore_inner content,
    contentScope, List.map_append, List.map_cons, List.append_assoc,
    List.cons_append, List.nil_append]

theorem length_earlier (first second : List Node) :
    (site.earlier first).length = (site.earlier second).length := by
  rw [earlier, earlier, List.length_map, List.length_map, List.length_append, List.length_append,
    length_placesBefore]

/-- The configurations that begin earlier read the same when those around the
template's own do. -/
theorem earlier_eq_iff (first second : List Node) :
    site.earlier first = site.earlier second ↔
      site.surrounding first = site.surrounding second := by
  rw [earlier, earlier, surrounding, surrounding, List.map_append, List.map_append,
    List.append_cancel_right_eq, map_placesBefore_eq_iff]

/-- The template with a content. -/
def ownTemplate (content : List Node) : Template :=
  readTemplate (site.field.place site.fieldScope (site.template.around content))

/-- The mapping around the template with a content. -/
def ownMapping (content : List Node) : Mapping :=
  readMapping site.direction (site.mapping.place site.mappingScope
    (site.fields.around (site.field.around (site.template.around content))))

/-- Another content gives the template another text and leaves the rest. -/
theorem ownTemplate_replaced (old new : List Node) :
    site.ownTemplate new = { site.ownTemplate old with text := site.textOf new } := by
  have read : ∀ content, site.ownTemplate content =
      { readTemplate (site.field.place site.fieldScope site.template.beside) with
        text := site.textOf content } :=
    fun content => readTemplate_around site.template_named site.first
  rw [read new, read old]

/-- Another content changes the text of one template of the mapping, by its position. -/
theorem ownMapping_replaced (old new : List Node) :
    site.ownMapping new =
      (site.ownMapping old).setTemplateText site.earlierFields.length (site.textOf new) := by
  have read : ∀ content, site.ownMapping content =
      { readMapping site.direction (site.mapping.place site.mappingScope site.fields.beside) with
        templates := site.earlierFields.map readTemplate ++
          site.ownTemplate content :: site.laterFields.map readTemplate } :=
    fun content => readMapping_around site.direction site.fields_named site.field_named
  have position : site.earlierFields.length = (site.earlierFields.map readTemplate).length :=
    (List.length_map _).symm
  rw [read new, read old, Mapping.setTemplateText, position, modify_length_append,
    site.ownTemplate_replaced old new]

/-- The configuration of the template depends on the content only in the text of
the template. -/
theorem own_replaced (old new : List Node) :
    site.own new = (site.own old).setTemplateText site.direction site.earlierMappings.length
      site.earlierFields.length (site.textOf new) := by
  have read : ∀ content, site.own content =
      (readConfiguration (site.configuration.place site.outerScope
        (site.mappings.around site.mapping.beside))).withMappings site.direction
          (site.earlierMappings.map (readMapping site.direction) ++
            site.ownMapping content :: site.laterMappings.map (readMapping site.direction)) :=
    fun content => readConfiguration_around site.direction site.mappings_named site.mapping_named
  have position : site.earlierMappings.length =
      (site.earlierMappings.map (readMapping site.direction)).length :=
    (List.length_map _).symm
  rw [read new, read old, Configuration.setTemplateText, Configuration.mappings_withMappings,
    Configuration.withMappings_withMappings, position, modify_length_append,
    site.ownMapping_replaced old new]

/-- Every template element that is read has its site in the document. -/
theorem exists_of_read {document : Xml.Document} {configuration mapping field template : Place}
    {direction : Direction}
    (configurationFound : configuration ∈ configurationPlacesInside false [] document.nodes)
    (mappingFound : mapping ∈ configuration.grandchildren "mappings" direction.elementName)
    (fieldFound : field ∈ mapping.grandchildren "templateFields" "templateField")
    (templateFound : field.child? "template" = some template) :
    ∃ (site : TemplateSite) (content : List Node), document = site.document content ∧
      site.direction = direction ∧
      template = site.template.place (site.field.scope site.fieldScope) content := by
  obtain ⟨outer, configurationFrame, _, nodes, enclosed, configurationNamed, rfl⟩ :=
    reachedBy_of_mem_configurationPlacesInside _ configurationFound
  obtain ⟨mappings, mappingsFound, mappingFound⟩ := List.mem_flatMap.mp mappingFound
  obtain ⟨mappingsFrame, _, rfl, mappingsNamed, rfl⟩ := Frame.exists_of_mem_children mappingsFound
  obtain ⟨mappingFrame, _, rfl, mappingNamed, rfl⟩ := Frame.exists_of_mem_children mappingFound
  obtain ⟨fields, fieldsFound, fieldFound⟩ := List.mem_flatMap.mp fieldFound
  obtain ⟨fieldsFrame, _, rfl, fieldsNamed, rfl⟩ := Frame.exists_of_mem_children fieldsFound
  obtain ⟨fieldFrame, _, rfl, fieldNamed, rfl⟩ := Frame.exists_of_mem_children fieldFound
  obtain ⟨templateFrame, content, rfl, templateNamed, rfl, first⟩ :=
    Frame.exists_of_child? templateFound
  exact ⟨⟨outer, configurationFrame, mappingsFrame, mappingFrame, fieldsFrame, fieldFrame,
    templateFrame, direction, enclosed, configurationNamed, mappingsNamed, mappingNamed,
    fieldsNamed, fieldNamed, templateNamed, first⟩, content, congrArg Xml.Document.mk nodes, rfl,
    rfl⟩

/-- **Replaced content of a template.** The configurations of a document stay as
they are, but for the text of the template, exactly when the elements
`configuration` inside the old and the new content are read as the same
configurations, and so are the configurations around the template's own. -/
theorem readConfigurations_replaced_iff (old new : List Node) :
    readConfigurations (site.document new) =
        site.setText (readConfigurations (site.document old)) (site.textOf new) ↔
      site.nested old = site.nested new ∧ site.surrounding old = site.surrounding new := by
  have position : site.configurationPosition = (site.earlier old).length :=
    site.length_earlier [] old
  rw [readConfigurations_document, readConfigurations_document, setText, position,
    modify_length_append, ← site.own_replaced old new,
    List.append_eq_append_iff_of_size_eq_left (site.length_earlier new old), List.cons.injEq,
    List.append_cancel_left_eq, List.append_cancel_right_eq, ← earlier_eq_iff]
  constructor
  · rintro ⟨earlier, -, nested⟩
    exact ⟨nested.symm, earlier.symm⟩
  · rintro ⟨nested, earlier⟩
    exact ⟨earlier.symm, rfl, nested.symm⟩

end TemplateSite

/-- A document whose only template holds a configuration with a project. -/
def nestingText : String :=
  "<configurations><configuration><mappings><mappingIn><templateFields><templateField>
    <template><configuration><projects><project>P</project></projects></configuration></template>
  </templateField></templateFields></mappingIn></mappings></configuration></configurations>"

set_option maxRecDepth 8000 in
/-- The configuration is the text of the template, and is read once more on its own. -/
theorem configurationsIn?_nestingText :
    configurationsIn? nestingText = some
      [{ inboundMappings := [{ templates := [{ text :=
          "<configuration><projects><project>P</project></projects></configuration>" }] }] },
        { projects := TextSet.ofList ["P"] }] :=
  (configurationsIn?_ofList _).trans (by decide +kernel)

end IssueSync
