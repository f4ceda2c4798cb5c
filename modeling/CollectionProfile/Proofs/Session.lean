import CollectionProfile.Session
import Mathlib.Data.List.Basic

/-!
# Runs of a session

What a session answers after any run of actions is told by the last successful load of the run
alone (`run_follows`). `step_fst` is the step: an action either loads a profile, and then the
session before it no longer counts, or leaves the session as it was.
-/

namespace CollectionProfile.Session

/-- What can be asked of a session. A file is given by what reading it gives at that time. -/
inductive Action
  | load (text : String)
  | loadFile (file : Except FileFault ByteArray)
  | isLoaded
  | schema
  | mapping (table : String) (options : Mapping.Options)
  | mappings (options : Mapping.Options)
  | combinedMapping (convention : Mapping.Convention)
  | schemaDocument (table : String)
  | schemaDocuments
  | combinedSchemaDocument

inductive Answer
  | flag (value : Bool)
  | schema (result : Except Failure Schema)
  | artifact (result : Except Failure Artifact)
  | artifacts (result : Except Failure (List Artifact))

def failureOf {α : Type} : Except Failure α → Option Failure
  | .ok _ => none
  | .error failure => some failure

def Answer.failure? : Answer → Option Failure
  | .flag _ => none
  | .schema result => failureOf result
  | .artifact result => failureOf result
  | .artifacts result => failureOf result

namespace Action

def isLoad : Action → Bool
  | .load _ | .loadFile _ => true
  | _ => false

/-- Whether the action can only be answered from a schema that is held. -/
def needsSchema : Action → Bool
  | .load _ | .loadFile _ | .isLoaded => false
  | _ => true

/-- The text that the action tries to load, where it gets hold of one. -/
def text? : Action → Option String
  | .load text => some text
  | .loadFile file => (file >>= fileText).toOption
  | _ => none

/-- The text that the action loads: one that is the text of a profile. -/
def loaded? (action : Action) : Option String :=
  action.text?.filter fun text => (Schema.ofProfile text).toOption.isSome

end Action

/-- The text of the last successful load. -/
def lastLoaded? (actions : List Action) : Option String :=
  (actions.filterMap (·.loaded?)).getLast?

/-- The session that did nothing but load the text, if there is one. -/
def fresh : Option String → Session
  | none => new
  | some text => (new.load text).1

def step (session : Session) : Action → Session × Answer
  | .load text => ((session.load text).1, .schema (session.load text).2)
  | .loadFile file => ((session.loadFile file).1, .schema (session.loadFile file).2)
  | .isLoaded => (session, .flag session.isLoaded)
  | .schema => (session, .schema session.schema)
  | .mapping table options => (session, .artifact (session.mapping table options))
  | .mappings options => (session, .artifacts (session.mappings options))
  | .combinedMapping convention => (session, .artifact (session.combinedMapping convention))
  | .schemaDocument table => (session, .artifact (session.schemaDocument table))
  | .schemaDocuments => (session, .artifacts session.schemaDocuments)
  | .combinedSchemaDocument => (session, .artifact session.combinedSchemaDocument)

/-- The session after a run of actions, and the answers in order. -/
def run (session : Session) : List Action → Session × List Answer
  | [] => (session, [])
  | action :: rest =>
    let (last, answers) := run (session.step action).1 rest
    (last, (session.step action).2 :: answers)

/-- What a run from a new session leaves behind and has answered. Every answer is the one that a
session gives which did nothing before but the last successful load up to there. -/
structure Follows (actions : List Action) (session : Session) (answers : List Answer) : Prop where
  state : session = fresh (lastLoaded? actions)
  answers : answers = actions.mapIdx fun i action =>
    ((fresh (lastLoaded? (actions.take i))).step action).2
  unloaded : lastLoaded? actions = none → session.isLoaded = false ∧
    ∀ action, action.needsSchema = true →
      (session.step action).2.failure? = some .noSchemaLoaded
  loaded : ∀ text, lastLoaded? actions = some text → session.isLoaded = true ∧
    session.schema = Schema.ofProfile text ∧ ∃ schema, Schema.ofProfile text = .ok schema

/-! ### One action -/

theorem failureOf_isSome_iff {α : Type} (result : Except Failure α) :
    (failureOf result).isSome = true ↔ result.toOption = none := by
  cases result with
  | ok value => simp [failureOf, Except.toOption]
  | error failure => simp [failureOf, Except.toOption]

theorem settle_fst (session : Session) (attempt : Except Failure Schema) :
    (session.settle attempt).1
      = (attempt.toOption.map fun schema => ⟨some schema⟩).getD session := by
  cases attempt with
  | ok schema => rfl
  | error failure => rfl

theorem settle_snd (session : Session) (attempt : Except Failure Schema) :
    (session.settle attempt).2 = attempt := by
  cases attempt with
  | ok schema => rfl
  | error failure => rfl

/-- A file is loaded by loading its text; without one there is a failed attempt. -/
theorem loadFile_eq (session : Session) (file : Except FileFault ByteArray) :
    session.loadFile file
      = session.settle (((file >>= fileText).mapError .file) >>= Schema.ofProfile) := by
  rw [loadFile]
  cases file >>= fileText with
  | ok text => rfl
  | error fault => rfl

namespace Action

/-- What a load tries to settle on. -/
def attempt? : Action → Option (Except Failure Schema)
  | .load text => some (Schema.ofProfile text)
  | .loadFile file => some (((file >>= fileText).mapError .file) >>= Schema.ofProfile)
  | _ => none

theorem isSome_attempt? (action : Action) : action.attempt?.isSome = action.isLoad := by
  cases action <;> rfl

/-- An attempt ends with the schema of the text that is loaded, and with none where no text is. -/
theorem toOption_of_attempt? {action : Action} {attempt : Except Failure Schema}
    (h : action.attempt? = some attempt) :
    attempt.toOption = action.loaded?.bind fun text => (Schema.ofProfile text).toOption := by
  have htext : attempt.toOption
      = action.text?.bind fun text => (Schema.ofProfile text).toOption := by
    cases action with
    | load text =>
      obtain rfl := Option.some.inj h
      rfl
    | loadFile file =>
      obtain rfl := Option.some.inj h
      show _ = (file >>= fileText).toOption.bind _
      cases file >>= fileText with
      | ok text => rfl
      | error fault => rfl
    | _ => cases h
  rw [htext, loaded?]
  cases htext? : action.text? with
  | none => rfl
  | some text =>
    cases hprofile : Schema.ofProfile text with
    | ok schema => simp [Option.filter, hprofile, Except.toOption]
    | error failure => simp [Option.filter, hprofile, Except.toOption]

theorem exists_of_loaded? {action : Action} {text : String} (h : action.loaded? = some text) :
    ∃ schema, Schema.ofProfile text = .ok schema := by
  have hsome := (Option.filter_eq_some_iff.1 h).2
  cases hprofile : Schema.ofProfile text with
  | ok schema => exact ⟨schema, rfl⟩
  | error failure => simp [hprofile, Except.toOption] at hsome

theorem isLoad_of_loaded? {action : Action} {text : String} (h : action.loaded? = some text) :
    action.isLoad = true := by
  cases action with
  | load _ => rfl
  | loadFile _ => rfl
  | _ => cases h

end Action

theorem step_of_attempt? (session : Session) {action : Action} {attempt : Except Failure Schema}
    (h : action.attempt? = some attempt) :
    session.step action = ((session.settle attempt).1, .schema attempt) := by
  cases action with
  | load text =>
    obtain rfl := Option.some.inj h
    rw [step, load, settle_snd]
  | loadFile file =>
    obtain rfl := Option.some.inj h
    rw [step, loadFile_eq, settle_snd]
  | _ => cases h

theorem step_fst_of_not_isLoad (session : Session) {action : Action} (h : action.isLoad = false) :
    (session.step action).1 = session := by
  cases action with
  | load _ => cases h
  | loadFile _ => cases h
  | _ => rfl

theorem fresh_some {text : String} {schema : Schema} (h : Schema.ofProfile text = .ok schema) :
    fresh (some text) = ⟨some schema⟩ := by
  rw [fresh, load, h]
  rfl

/-- An action either loads a text, and then it does not matter what the session held, or leaves the
session as it was. -/
theorem step_fst (session : Session) (action : Action) :
    (session.step action).1 = action.loaded?.elim session fun text => fresh (some text) := by
  cases hattempt : action.attempt? with
  | none =>
    have hload : action.isLoad = false := by rw [← action.isSome_attempt?, hattempt]; rfl
    have hloaded : action.loaded? = none := by
      by_contra h
      obtain ⟨text, htext⟩ := Option.ne_none_iff_exists'.1 h
      rw [Action.isLoad_of_loaded? htext] at hload
      cases hload
    rw [step_fst_of_not_isLoad session hload, hloaded]
    rfl
  | some attempt =>
    rw [step_of_attempt? session hattempt, settle_fst, Action.toOption_of_attempt? hattempt]
    cases hloaded : action.loaded? with
    | none => rfl
    | some text =>
      obtain ⟨schema, hschema⟩ := Action.exists_of_loaded? hloaded
      show ((Schema.ofProfile text).toOption.map _).getD session = fresh (some text)
      rw [fresh_some hschema, hschema]
      rfl

/-- Exactly the loads that are answered by a schema load a text. -/
theorem isSome_loaded?_iff (session : Session) (action : Action) :
    action.loaded?.isSome = true ↔
      action.isLoad = true ∧ (session.step action).2.failure? = none := by
  cases hattempt : action.attempt? with
  | none =>
    have hload : action.isLoad = false := by rw [← action.isSome_attempt?, hattempt]; rfl
    constructor
    · intro h
      obtain ⟨text, htext⟩ := Option.isSome_iff_exists.1 h
      exact absurd (Action.isLoad_of_loaded? htext) (by simp [hload])
    · rintro ⟨h, -⟩
      rw [hload] at h
      cases h
  | some attempt =>
    have hload : action.isLoad = true := by rw [← action.isSome_attempt?, hattempt]; rfl
    have hloads := Action.toOption_of_attempt? hattempt
    rw [step_of_attempt? session hattempt]
    show _ ↔ _ ∧ failureOf attempt = none
    cases hloaded : action.loaded? with
    | none =>
      rw [hloaded] at hloads
      have hfails := (failureOf_isSome_iff attempt).2 hloads
      simp [Option.isSome_iff_ne_none.1 hfails]
    | some text =>
      obtain ⟨schema, hschema⟩ := Action.exists_of_loaded? hloaded
      rw [hloaded] at hloads
      have hloads : attempt.toOption = (Schema.ofProfile text).toOption := hloads
      cases attempt with
      | ok _ => simp [hload, failureOf]
      | error _ => simp [hschema, Except.toOption] at hloads

/-- Without a schema whatever needs one fails alike. -/
theorem failure?_step_new {action : Action} (h : action.needsSchema = true) :
    (new.step action).2.failure? = some .noSchemaLoaded := by
  cases action with
  | load _ => cases h
  | loadFile _ => cases h
  | isLoaded => cases h
  | _ => rfl

/-! ### Runs -/

theorem lastLoaded?_cons (action : Action) (rest : List Action) :
    lastLoaded? (action :: rest) = (lastLoaded? rest).or action.loaded? := by
  rw [lastLoaded?, lastLoaded?, List.filterMap_cons]
  cases action.loaded? with
  | none => rw [Option.or_none]
  | some text =>
    rw [List.getLast?_cons]
    cases (rest.filterMap (·.loaded?)).getLast? with
    | none => rfl
    | some last => rfl

theorem run_fst (session : Session) (actions : List Action) :
    (session.run actions).1 = (lastLoaded? actions).elim session fun text => fresh (some text) := by
  induction actions generalizing session with
  | nil => rfl
  | cons action rest ih =>
    show ((session.step action).1.run rest).1 = _
    rw [ih, lastLoaded?_cons, step_fst]
    cases lastLoaded? rest with
    | none => rfl
    | some text => rfl

theorem run_new_fst (actions : List Action) :
    (new.run actions).1 = fresh (lastLoaded? actions) := by
  rw [run_fst]
  cases lastLoaded? actions with
  | none => rfl
  | some text => rfl

/-- Each answer is given by the session that the actions before have left behind. -/
theorem run_snd (session : Session) (actions : List Action) :
    (session.run actions).2
      = actions.mapIdx fun i action => ((session.run (actions.take i)).1.step action).2 := by
  induction actions generalizing session with
  | nil => rfl
  | cons action rest ih =>
    rw [List.mapIdx_cons]
    show (session.step action).2 :: ((session.step action).1.run rest).2 = _
    rw [ih]
    rfl

theorem exists_of_lastLoaded? {actions : List Action} {text : String}
    (h : lastLoaded? actions = some text) : ∃ schema, Schema.ofProfile text = .ok schema := by
  obtain ⟨action, -, hloaded⟩ := List.mem_filterMap.1 (List.mem_of_getLast? h)
  exact Action.exists_of_loaded? hloaded

/-- A run from a new session follows its last successful load, and neither a failed action nor one
that is not a load changes a session. -/
theorem run_follows (actions : List Action) :
    Follows actions (new.run actions).1 (new.run actions).2 ∧
      ∀ (session : Session) (action : Action),
        action.isLoad = false ∨ (session.step action).2.failure?.isSome = true →
        (session.step action).1 = session := by
  refine ⟨⟨run_new_fst actions, ?_, ?_, ?_⟩, ?_⟩
  · simp only [run_snd, run_new_fst]
  · intro hnone
    rw [run_new_fst, hnone]
    exact ⟨rfl, fun action => failure?_step_new⟩
  · intro text htext
    obtain ⟨schema, hschema⟩ := exists_of_lastLoaded? htext
    rw [run_new_fst, htext, fresh_some hschema, hschema]
    exact ⟨rfl, rfl, schema, rfl⟩
  · intro session action h
    have hnone : action.loaded? = none := by
      rw [← Option.not_isSome_iff_eq_none, isSome_loaded?_iff session]
      rintro ⟨hload, hanswer⟩
      rcases h with h | h
      · simp [hload] at h
      · simp [hanswer] at h
    rw [step_fst, hnone]
    rfl

/-- After a profile was loaded, a malformed one, a missing file and a file that is not text are
refused, and the first profile stays. -/
theorem run_follows_refusals :
    let actions : List Action := [.mappings {}, .load "<p/>", .load "<p>",
      .loadFile (.error .notFound), .loadFile (.ok ⟨#[255]⟩), .combinedSchemaDocument]
    lastLoaded? (actions.take 1) = none ∧ lastLoaded? actions = some "<p/>" ∧
      (new.run actions).1 = fresh (some "<p/>") ∧
      ∀ action ∈ actions.drop 2, ((new.run actions).1.step action).1 = (new.run actions).1 := by
  intro actions
  have hnone : lastLoaded? (actions.take 1) = none := rfl
  have hlast : lastLoaded? actions = some "<p/>" := by decide +kernel
  have hfollows := run_follows actions
  refine ⟨hnone, hlast, hlast ▸ hfollows.1.state, ?_⟩
  have hrefused : ∀ action ∈ actions.drop 2, action.isLoad = false ∨
      ((new.run actions).1.step action).2.failure?.isSome = true := by
    rw [hfollows.1.state, hlast]
    decide +kernel
  intro action hmem
  exact hfollows.2 _ action (hrefused action hmem)

end CollectionProfile.Session
