import IssueSync.Proofs.Loading.Outcome
import IssueSync.Table.Store

/-! # Tables in circulation

A table that comes out of a document is sound: each of its keys leads to a
configuration of the table that claims the key and whose mappings pass
validation (`ProjectTable.sound_of_load`). A store publishes and hands out loaded
tables, the empty table and tables that were in circulation before, so in every
run the store holds the table that was published last, and all tables in
circulation are sound (`Store.Run.current_last_and_sound`). The sessions of a
user who keeps tables are such runs (`Session.reached_run`).
-/

namespace IssueSync

/-! ### Sound tables -/

/-- Every key leads to a configuration of the table that claims it, and nothing
is wrong with the mappings of that configuration. -/
def ProjectTable.Sound [Libraries] (table : ProjectTable) : Prop :=
  ∀ key ∈ table.keys, ∃ configuration, table.get? key = some configuration ∧
    configuration ∈ table.configurations ∧ key ∈ configuration.projects ∧
    ∀ direction, ∀ mapping ∈ configuration.mappings direction, ∀ label,
      mapping.validate label = none

namespace ProjectTable

variable [Libraries]

/-- The table with no configurations is sound. -/
theorem sound_empty : Sound ∅ := by
  intro key member
  cases member

/-- The table of configurations that pass validation is sound. -/
theorem sound_ofConfigurations {configurations : List Configuration}
    (resolved : IssueSync.Resolved configurations) : (ofConfigurations configurations).Sound := by
  intro key member
  obtain ⟨placed, claimed⟩ := TextMap.mem_keys_iff.mp member
  have found : (ofConfigurations configurations).get? key = some placed.configuration := by
    rw [get?, claimed, Option.map_some]
  have last := found
  rw [get?_ofConfigurations] at last
  have listed : placed.configuration ∈ configurations :=
    List.mem_reverse.mp (List.mem_of_find?_eq_some last)
  have claims : key ∈ placed.configuration.projects := by
    simpa using List.find?_some last
  refine ⟨placed.configuration, found, listed, claims, ?_⟩
  intro direction mapping inConfiguration label
  apply Mapping.validate_eq_none_iff.mpr
  exact resolved placed.configuration listed direction mapping inConfiguration

/-- So is every table that was loaded. -/
theorem sound_of_load {text : String} {table : ProjectTable} (loaded : load text = .ok table) :
    table.Sound := by
  obtain ⟨configurations, -, resolved, rfl⟩ := exists_of_load loaded
  exact sound_ofConfigurations resolved

end ProjectTable

namespace Store

section

variable [Libraries]

/-- A document that loads is published. -/
theorem reload_of_ok {text : String} {table : ProjectTable} (loaded : load text = .ok table)
    (store : Store) : store.reload text = (.ok table, store.replace table) := by
  rw [reload, loaded]

/-- A document that does not load changes nothing. -/
theorem reload_of_error {text : String} {error : LoadError} (failed : load text = .error error)
    (store : Store) : store.reload text = (.error error, store) := by
  rw [reload, failed]

/-- Reloading gives what loading gives. -/
theorem reload_fst (store : Store) (text : String) : (store.reload text).1 = load text := by
  cases loaded : load text with
  | ok table => rw [reload_of_ok loaded]
  | error error => rw [reload_of_error loaded]

end

/-! ### Runs -/

/-- What the user of a store does, with what comes back. -/
inductive Event where
  /-- A document was loaded, but not published. -/
  | loaded (table : ProjectTable)
  | reloaded (result : Except LoadError ProjectTable)
  | replaced (table previous : ProjectTable)
  /-- The user asked for the current table. -/
  | shown (table : ProjectTable)
  | got (configuration : Option Configuration)

namespace Event

/-- The table that was published. -/
def published? : Event → Option ProjectTable
  | .reloaded (.ok table) => some table
  | .replaced table _ => some table
  | _ => none

/-- The table that the user got. -/
def handed? : Event → Option ProjectTable
  | .loaded table => some table
  | .reloaded (.ok table) => some table
  | .replaced _ previous => some previous
  | .shown table => some table
  | _ => none

end Event

/-- The tables published in a run, oldest first. -/
def published (initial : ProjectTable) (events : List Event) : List ProjectTable :=
  initial :: events.filterMap Event.published?

/-- The tables that the user has had in a run, oldest first. -/
def handed (initial : ProjectTable) (events : List Event) : List ProjectTable :=
  initial :: events.filterMap Event.handed?

variable {initial : ProjectTable} {events : List Event} {store next : Store}

/-- The table published last is that of the last step, if it published one. -/
theorem getLast?_published_concat (event : Event) :
    (published initial (events ++ [event])).getLast? =
      event.published?.or (published initial events).getLast? := by
  have split : published initial (events ++ [event]) =
      published initial events ++ event.published?.toList := by
    cases given : event.published? with
    | none => simp [published, given]
    | some table => simp [published, given]
  rw [split, List.getLast?_append]
  cases event.published? with
  | none => rfl
  | some table => rfl

/-- A step hands out at most one more table. -/
theorem mem_handed_concat {event : Event} {table : ProjectTable} :
    table ∈ handed initial (events ++ [event]) ↔
      table ∈ handed initial events ∨ event.handed? = some table := by
  simp only [handed, List.filterMap_append, List.mem_cons, List.mem_append, List.mem_filterMap,
    List.not_mem_nil, or_false, exists_eq_left, or_assoc]

section

variable [Libraries]

/-- The runs of a store that begins with the table `initial`: what has happened,
and the store after it. Only the empty table and tables that the user has had
are published by hand. -/
inductive Run (initial : ProjectTable) : List Event → Store → Prop where
  | start : Run initial [] ⟨initial⟩
  | load {events : List Event} {store : Store} {text : String} {table : ProjectTable}
      (before : Run initial events store) (loaded : IssueSync.load text = .ok table) :
      Run initial (events ++ [.loaded table]) store
  | reload {events : List Event} {store : Store} (before : Run initial events store)
      (text : String) :
      Run initial (events ++ [.reloaded (store.reload text).1]) (store.reload text).2
  | replace {events : List Event} {store : Store} {table : ProjectTable}
      (before : Run initial events store) (known : table = ∅ ∨ table ∈ handed initial events) :
      Run initial (events ++ [.replaced table store.current]) (store.replace table)
  | current {events : List Event} {store : Store} (before : Run initial events store) :
      Run initial (events ++ [.shown store.current]) store
  | get {events : List Event} {store : Store} (before : Run initial events store)
      (key : String) : Run initial (events ++ [.got (store.get? key)]) store

/-- What every step of a run keeps. -/
structure Kept (initial : ProjectTable) (events : List Event) (store : Store) : Prop where
  last : (published initial events).getLast? = some store.current
  current_sound : store.current.Sound
  handed_sound : ∀ table ∈ handed initial events, table.Sound

/-- A step keeps this when it publishes and hands out sound tables only. -/
theorem Kept.concat {event : Event} (kept : Kept initial events store)
    (moves : next.current = event.published?.getD store.current)
    (published_sound : ∀ table, event.published? = some table → table.Sound)
    (handed_sound : ∀ table, event.handed? = some table → table.Sound) :
    Kept initial (events ++ [event]) next := by
  constructor
  · rw [getLast?_published_concat, kept.last, moves]
    cases event.published? with
    | none => rfl
    | some table => rfl
  · rw [moves]
    cases given : event.published? with
    | none => exact kept.current_sound
    | some table => exact published_sound table given
  · intro table member
    rcases mem_handed_concat.mp member with earlier | now
    · exact kept.handed_sound table earlier
    · exact handed_sound table now

/-- Only sound tables are loaded, and so only such tables come into circulation. -/
theorem Run.kept (initial_sound : initial.Sound) (run : Run initial events store) :
    Kept initial events store := by
  induction run with
  | start =>
      refine ⟨rfl, initial_sound, ?_⟩
      intro table member
      rw [List.mem_singleton.mp member]
      exact initial_sound
  | load before loaded kept =>
      refine kept.concat rfl (fun table published => ?_) (fun table given => ?_)
      · cases published
      · cases given
        exact ProjectTable.sound_of_load loaded
  | @reload events store before text kept =>
      cases loaded : IssueSync.load text with
      | ok table =>
          have sound := ProjectTable.sound_of_load loaded
          rw [reload_of_ok loaded]
          refine kept.concat rfl (fun other published => ?_) (fun other given => ?_)
          · cases published
            exact sound
          · cases given
            exact sound
      | error error =>
          rw [reload_of_error loaded]
          refine kept.concat rfl (fun other published => ?_) (fun other given => ?_)
          · cases published
          · cases given
  | @replace events store table before known kept =>
      -- This is why the invariant speaks of all tables in circulation.
      refine kept.concat rfl (fun other published => ?_) (fun other given => ?_)
      · cases published
        rcases known with rfl | had
        · exact ProjectTable.sound_empty
        · exact kept.handed_sound table had
      · cases given
        exact kept.current_sound
  | current before kept =>
      refine kept.concat rfl (fun table published => ?_) (fun table given => ?_)
      · cases published
      · cases given
        exact kept.current_sound
  | get before key kept =>
      refine kept.concat rfl (fun table published => ?_) (fun table given => ?_)
      · cases published
      · cases given

/-- **Runs of a store.** A store that begins empty or with a loaded table always
holds the table that was published last. Reloading gives what loading the
document gives; a document that does not load leaves the store alone. All
tables that are in effect or were handed out are sound. -/
theorem Run.current_last_and_sound
    (begun : initial = ∅ ∨ ∃ text, IssueSync.load text = .ok initial)
    (run : Run initial events store) :
    (published initial events).getLast? = some store.current ∧
      (∀ text, (store.reload text).1 = IssueSync.load text) ∧
      (∀ text error, IssueSync.load text = .error error → (store.reload text).2 = store) ∧
      ∀ table ∈ store.current :: handed initial events, table.Sound := by
  have initial_sound : initial.Sound := by
    rcases begun with rfl | ⟨text, loaded⟩
    · exact ProjectTable.sound_empty
    · exact ProjectTable.sound_of_load loaded
  have kept := run.kept initial_sound
  refine ⟨kept.last, store.reload_fst, ?_, ?_⟩
  · intro text error failed
    rw [reload_of_error failed]
  · exact List.forall_mem_cons.mpr ⟨kept.current_sound, kept.handed_sound⟩

end

section

attribute [local instance] Libraries.sizeLimited

/-- A document whose only configuration has a project and a template in which
nothing is wrong. -/
def keyedText : String :=
  "<configurations><configuration><projects><project>A</project></projects>
    <mappings><mappingIn><fields><field id='a'/></fields><templateFields>
      <templateField><template>%a%</template></templateField>
    </templateFields></mappingIn></mappings>
  </configuration></configurations>"

/-- What is read of this document. -/
def keyedConfiguration : Configuration where
  projects := TextSet.ofList ["A"]
  inboundMappings := [{ fields := [{ id := "a" }], templates := [{ text := "%a%" }] }]

set_option maxRecDepth 8000 in
/-- A document that ends too early changes nothing, and the table comes back
after the empty one took its place. -/
theorem current_last_and_sound_keyedText :
    ∃ table, IssueSync.load keyedText = .ok table ∧ table.keys = ["A"] ∧
      ∃ events, Run table events ⟨table⟩ ∧ published table events = [table, ∅, table] ∧
        (published table events).getLast? = some table ∧
        ∀ other ∈ table :: handed table events, other.Sound := by
  have read : configurationsIn? keyedText = some [keyedConfiguration] :=
    (configurationsIn?_ofList _).trans (by decide +kernel)
  have resolved : Resolved [keyedConfiguration] := by
    rw [← allComplaints_eq_nil_iff]
    decide +kernel
  have loaded : IssueSync.load keyedText =
      .ok (ProjectTable.ofConfigurations [keyedConfiguration]) := by
    rw [load_of_configurations read, publish_of_resolved resolved]
  have unread : configurationsIn? "<configurations>" = none :=
    (configurationsIn?_ofList _).trans (by decide +kernel)
  have failed : IssueSync.load "<configurations>" =
      .error (.malformed "not a well-formed document") := load_of_unread unread
  generalize tableIs : ProjectTable.ofConfigurations [keyedConfiguration] = table at loaded
  have keys : table.keys = ["A"] := by
    rw [← tableIs]
    decide +kernel
  have failing : Run table _ _ := Run.start.reload "<configurations>"
  rw [reload_of_error failed] at failing
  have emptied := failing.replace (.inl rfl)
  have had : ∀ events, table ∈ handed table events := fun _ => List.mem_cons_self
  have back := emptied.replace (.inr (had _))
  obtain ⟨last, -, -, sound⟩ := back.current_last_and_sound (.inr ⟨keyedText, loaded⟩)
  exact ⟨table, loaded, keys, _, back, rfl, last, sound⟩

end

end Store

/-! ### Sessions -/

variable [Libraries]

/-- The store of a session comes from a run of the empty store in which the user
has had the tables kept. -/
def Session.Reached (session : Session) : Prop :=
  ∃ events, Store.Run ∅ events session.store ∧ ∀ table ∈ session.held, table ∈ Store.handed ∅ events

namespace Session

/-- Every step of a session is a step in a run of its store. -/
theorem reached_step {session : Session} (reached : session.Reached) (next : Step) :
    (session.step next).2.Reached := by
  obtain ⟨events, run, had⟩ := reached
  have stillHad : ∀ event, ∀ table ∈ session.held, table ∈ Store.handed ∅ (events ++ [event]) :=
    fun event table kept => Store.mem_handed_concat.mpr (.inl (had table kept))
  cases next with
  | reload text => exact ⟨_, run.reload text, stillHad _⟩
  | get key => exact ⟨_, run.get key, stillHad _⟩
  | hold =>
      refine ⟨_, run.current, fun table kept => ?_⟩
      rcases List.mem_append.mp kept with earlier | now
      · exact stillHad _ table earlier
      · rw [List.mem_singleton.mp now]
        exact Store.mem_handed_concat.mpr (.inr rfl)
  | replace position =>
      have known : session.table position = ∅ ∨ session.table position ∈ Store.handed ∅ events := by
        unfold Session.table
        cases found : position.bind fun index => session.held[index]? with
        | none => exact .inl rfl
        | some table =>
            obtain ⟨index, -, kept⟩ := Option.bind_eq_some_iff.mp found
            exact .inr (had table (List.mem_of_getElem? kept))
      exact ⟨_, run.replace known, stillHad _⟩
  | restart =>
      -- Starting over has the effect of publishing the empty table.
      exact ⟨_, run.replace (.inl rfl), stillHad _⟩

/-- Whatever a user does, the session is one that runs of the store reach. -/
theorem reached_run {session : Session} (reached : session.Reached) (steps : List Step) :
    (session.run steps).Reached := by
  induction steps generalizing session with
  | nil => exact reached
  | cons next rest ih => exact ih (reached_step reached next)

end Session

end IssueSync
