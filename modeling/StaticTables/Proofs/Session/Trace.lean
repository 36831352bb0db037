import Mathlib
import StaticTables.Proofs.Session.Answering
import StaticTables.Proofs.Session.Defining
import StaticTables.Proofs.Table.Grouping
import StaticTables.Session.Run

/-!
# Failed steps leave no trace

A command that is not answered may have built an index on its way. In a session whose tables all
have identities of their own, that index is the one that any later command would build, so the
commands that follow have the results that they would have had without it.
-/
namespace StaticTables.Session

open StaticTables.Session.Action

variable {catalog : Catalog} {apart : Option String} {s t : Session}

/-! ## Sessions over time -/

/-- The session after some commands. -/
def after (s : Session) : List Command → Session
  | [] => s
  | c :: rest => after (s.step c).2 rest

/-- The table that a command adds, if it builds one. -/
def tableBuilt (s : Session) : Command → Option (Table Fields)
  | .define _ definition =>
    match ((construct definition).run.run s).result with
    | .ok (.ok (.table _ t)) => some t
    | _ => none
  | .ask .. => none

/-- The tables that some commands add, in this order. -/
def tablesBuilt (s : Session) : List Command → List (Table Fields)
  | [] => []
  | c :: rest => (s.tableBuilt c).toList ++ tablesBuilt (s.step c).2 rest

/-- A command was answered. -/
def StepResult.isAnswered : StepResult → Bool
  | .finished (.ok _) => true
  | _ => false

theorem after_append (s : Session) (cs ds : List Command) :
    s.after (cs ++ ds) = (s.after cs).after ds := by
  induction cs generalizing s with
  | nil => rfl
  | cons c cs ih => exact ih _

theorem tablesBuilt_append (s : Session) (cs ds : List Command) :
    s.tablesBuilt (cs ++ ds) = s.tablesBuilt cs ++ (s.after cs).tablesBuilt ds := by
  induction cs generalizing s with
  | nil => rfl
  | cons c cs ih => rw [List.cons_append, tablesBuilt, tablesBuilt, ih, List.append_assoc, after]

theorem runFrom_cons (s : Session) (c : Command) (rest : List Command) :
    runFrom s (c :: rest) = (s.step c).1 :: runFrom (s.step c).2 rest := rfl

theorem runFrom_append (s : Session) (cs ds : List Command) :
    runFrom s (cs ++ ds) = runFrom s cs ++ runFrom (s.after cs) ds := by
  induction cs generalizing s with
  | nil => rfl
  | cons c cs ih => rw [List.cons_append, runFrom_cons, runFrom_cons, ih, List.cons_append, after]

theorem length_runFrom (s : Session) (cs : List Command) : (runFrom s cs).length = cs.length := by
  induction cs generalizing s with
  | nil => rfl
  | cons c cs ih => rw [runFrom_cons, List.length_cons, List.length_cons, ih]

theorem getElem?_runFrom_append_left {cs : List Command} {i : Nat} (hi : i < cs.length) (s : Session)
    (ds : List Command) : (runFrom s (cs ++ ds))[i]? = (runFrom s cs)[i]? := by
  rw [runFrom_append, List.getElem?_append_left]
  rwa [length_runFrom]

theorem getElem?_runFrom_append_right (s : Session) (cs ds : List Command) (i : Nat) :
    (runFrom s (cs ++ ds))[cs.length + i]? = (runFrom (s.after cs) ds)[i]? := by
  have hlength := length_runFrom s cs
  rw [runFrom_append, List.getElem?_append_right (by omega), hlength, Nat.add_sub_cancel_left]

/-! ## One step -/

section Define

variable {name : String} {definition : Definition}

theorem fst_step_define : (s.step (.define name definition)).1 =
    .ofOutcome Object.built ((construct definition).run.run s) := by
  unfold step
  dsimp only
  split <;> rfl

theorem snd_step_define_of_built {o : Object}
    (h : ((construct definition).run.run s).result = .ok (.ok o)) :
    (s.step (.define name definition)).2 = s.bind name o := by
  simp only [step, h]

theorem snd_step_define_of_not_built
    (h : ∀ o, ((construct definition).run.run s).result ≠ .ok (.ok o)) :
    (s.step (.define name definition)).2 = s := by
  unfold step
  dsimp only
  split
  next o ho => exact absurd ho (h o)
  next => rfl

/-- A construction that fails leaves every name as it was. -/
theorem snd_step_define_of_not_answered
    (h : (s.step (.define name definition)).1.result.isAnswered = false) :
    (s.step (.define name definition)).2 = s := by
  refine snd_step_define_of_not_built fun o ho => ?_
  rw [fst_step_define, Step.ofOutcome, ho] at h
  contradiction

end Define

theorem result_ofOutcome_eq {α : Type} {reply : α → Reply} {o o' : Outcome Session (Except Refusal α)}
    (h : o.result = o'.result) :
    (Step.ofOutcome reply o).result = (Step.ofOutcome reply o').result := by
  simp only [Step.ofOutcome, h]

theorem Like.bind (hst : Like catalog apart s t) {name : String} {o : Object}
    (ho : o.Like catalog (apart = some name) o) :
    Like catalog apart (s.bind name o) (t.bind name o) := by
  have hput := hst.put ho
  cases o with
  | table columns a => exact ⟨congrArg (· + 1) hst.tables_eq, hput.object⟩
  | _ => exact hput

/-- Whether a command may tell apart sessions that are alike but for the lazy index of one name: it
asks for the structural text of an object, or asks that index. -/
def Command.Sees (apart : Option String) : Command → Prop
  | .define .. => False
  | .ask query _ => query.isInspect = true ∨ ∃ name, query.namedIndex = some name ∧ apart = some name

theorem Like.step_define (hst : Like catalog apart s t) {name : String} {definition : Definition}
    (hknown : ∀ a, s.tableBuilt (.define name definition) = some a → catalog a.id = some a) :
    Like catalog apart (s.step (.define name definition)).2 (t.step (.define name definition)).2 := by
  have hresult := (reads_construct definition).result_eq hst
  by_cases hbuilt : ∃ o, ((construct definition).run.run s).result = .ok (.ok o)
  · obtain ⟨o, ho⟩ := hbuilt
    rw [snd_step_define_of_built ho, snd_step_define_of_built (hresult.symm.trans ho)]
    have hbelongs := (gives_construct definition).holds hst.left ho
    refine hst.bind (hbelongs (fun columns a htable => hknown a ?_) _)
    rw [tableBuilt, ho, htable]
  · rw [snd_step_define_of_not_built fun o ho => hbuilt ⟨o, ho⟩,
      snd_step_define_of_not_built fun o ho => hbuilt ⟨o, hresult.trans ho⟩]
    exact hst

theorem apart_of_lazyAsked {query : Query} {view : View} (hsees : (Command.ask query view).Sees apart)
    {name : String} (h : s.lazyAsked query = some name) : apart = some name := by
  have hnamed : query.namedIndex = some name := (Option.filter_eq_some_iff.mp h).1
  rcases hsees with hinspect | ⟨other, hother, hapart⟩
  · cases query <;> contradiction
  · rw [hnamed] at hother
    rw [hapart, hother]

/-- Like sessions take a command alike: they stay alike, and they have the same result unless the
command sees what they differ in. -/
theorem Like.step (hst : Like catalog apart s t) (c : Command)
    (hknown : ∀ a, s.tableBuilt c = some a → catalog a.id = some a) :
    Like catalog apart (s.step c).2 (t.step c).2 ∧
      (¬ c.Sees apart → (s.step c).1.result = (t.step c).1.result) := by
  cases c with
  | define name definition =>
    refine ⟨hst.step_define hknown, fun _ => ?_⟩
    rw [fst_step_define, fst_step_define]
    exact result_ofOutcome_eq ((reads_construct definition).result_eq hst)
  | ask query view =>
    by_cases hsees : Command.Sees apart (.ask query view)
    · -- each side keeps its session, whatever the two answers are
      have hs := keeps_answer hst.left view query fun _ => apart_of_lazyAsked hsees
      have ht := keeps_answer hst.right view query fun _ => apart_of_lazyAsked hsees
      exact ⟨(Like.symm hs).trans (hst.trans ht), fun hnot => absurd hsees hnot⟩
    · have hagree := agree_answer hst view query
        (Bool.eq_false_iff.mpr fun h => hsees (.inl h)) fun name h h' => hsees (.inr ⟨name, h, h'⟩)
      exact ⟨hagree.like_state, fun _ => result_ofOutcome_eq hagree.result_eq⟩

/-! ## Runs -/

theorem Like.after (hst : Like catalog apart s t) {cs : List Command}
    (hknown : ∀ a ∈ s.tablesBuilt cs, catalog a.id = some a) :
    Like catalog apart (s.after cs) (t.after cs) := by
  induction cs generalizing s t with
  | nil => exact hst
  | cons c cs ih =>
    rw [tablesBuilt, List.forall_mem_append] at hknown
    exact ih (hst.step c fun a ha => hknown.1 a (Option.mem_toList.mpr ha)).1 hknown.2

/-- Like sessions have the same results, command by command. -/
theorem Like.runFrom (hst : Like catalog apart s t) {cs : List Command}
    (hknown : ∀ a ∈ s.tablesBuilt cs, catalog a.id = some a) {i : Nat} {c : Command}
    (hc : cs[i]? = some c) (hsees : ¬ c.Sees apart) :
    ∃ r r', (runFrom s cs)[i]? = some r ∧ (runFrom t cs)[i]? = some r' ∧ r.result = r'.result := by
  induction cs generalizing s t i with
  | nil => contradiction
  | cons d cs ih =>
    -- a table of a later command is one that the first session builds there
    rw [tablesBuilt, List.forall_mem_append] at hknown
    have hstep := hst.step d fun a ha => hknown.1 a (Option.mem_toList.mpr ha)
    cases i with
    | zero =>
      obtain rfl := Option.some.inj hc
      exact ⟨_, _, rfl, rfl, hstep.2 hsees⟩
    | succ i => exact ih hstep.1 hknown.2 hc

/-! ## A step that fails -/

/-- The lazy index of a name that a command is put to. -/
def Command.lazyAsked (s : Session) : Command → Option String
  | .define .. => none
  | .ask query _ => s.lazyAsked query

/-- A command that is not answered leaves the session like it was, but for the lazy index that it
was put to. -/
theorem Like.step_of_not_answered {c : Command} (hs : Like catalog (c.lazyAsked s) s s)
    (hfailed : (s.step c).1.result.isAnswered = false) :
    Like catalog (c.lazyAsked s) s (s.step c).2 := by
  cases c with
  | define name definition =>
    rw [snd_step_define_of_not_answered hfailed]
    exact hs
  | ask query view => exact keeps_answer hs view query fun _ h => h

/-- The tables of a list, by identity. -/
def catalogOf (tables : List (Table Fields)) : Catalog :=
  fun id => tables.find? fun t => t.id = id

theorem catalogOf_eq_some {tables : List (Table Fields)} (distinct : (tables.map Table.id).Nodup)
    {a : Table Fields} (ha : a ∈ tables) : catalogOf tables a.id = some a :=
  find?_of_nodup_map distinct ha

/-- The other steps have the results that they would have had without a step that fails. Excepted
are structural texts, which show whether an index is built, and the lazy index of a name, if the
failing step was put to it: it is of no table before its first use, and of the one that it is given
then. -/
theorem failed_step_leaves_no_trace {before later : List Command} {c : Command}
    (hids : ((tablesBuilt {} (before ++ c :: later)).map Table.id).Nodup)
    (hfailed : ((after {} before).step c).1.result.isAnswered = false) :
    (∀ i < before.length, (run (before ++ c :: later))[i]? = (run (before ++ later))[i]?) ∧
    (∀ i d, later[i]? = some d → ¬ d.Sees (c.lazyAsked (after {} before)) →
      ∃ r r', (run (before ++ c :: later))[before.length + (i + 1)]? = some r ∧
        (run (before ++ later))[before.length + i]? = some r' ∧ r.result = r'.result) ∧
    ∀ name definition, c = .define name definition →
      after {} (before ++ [c]) = after {} before := by
  have hknown : ∀ a ∈ tablesBuilt {} (before ++ c :: later),
      catalogOf (tablesBuilt {} (before ++ c :: later)) a.id = some a :=
    fun a ha => catalogOf_eq_some hids ha
  generalize catalogOf (tablesBuilt {} (before ++ c :: later)) = catalog at hknown
  rw [tablesBuilt_append, List.forall_mem_append, tablesBuilt, List.forall_mem_append] at hknown
  obtain ⟨hbefore, -, hlater⟩ := hknown
  -- the commands that follow start from like sessions, with the step and without it
  have hlike := (like_empty catalog (c.lazyAsked (after {} before))).after hbefore
  have htrace := hlike.step_of_not_answered hfailed
  refine ⟨fun i hi => ?_, fun i d hd hsees => ?_, fun name definition hc => ?_⟩
  · rw [run, run, getElem?_runFrom_append_left hi, getElem?_runFrom_append_left hi]
  · obtain ⟨r, r', hr, hr', hresult⟩ := htrace.symm.runFrom hlater hd hsees
    refine ⟨r, r', ?_, ?_, hresult⟩
    · rw [run, getElem?_runFrom_append_right, runFrom_cons]
      exact hr
    · rw [run, getElem?_runFrom_append_right]
      exact hr'
  · subst hc
    rw [after_append]
    exact snd_step_define_of_not_answered hfailed

/-- Students take courses, and no index is built yet. -/
def courseRegister : List Command :=
  let side (column target : String) : RelationshipSpec :=
    { declaration := { name := column }, source := "enrolments", target := target,
      column := column, settings := { eager := false } }
  [.define "students" (.table { value := 11 } "students" [] #[[], []]),
    .define "courses" (.table { value := 12 } "courses" [] #[[]]),
    .define "enrolments" (.table { value := 13 } "enrolments" [("student", .ref), ("course", .ref)]
      #[[("student", .ref (some .first)), ("course", .ref (some .first))]]),
    .define "taken" (.junction (side "student" "students") (side "course" "courses"))]

/-- The courses of the first student, read from a table. -/
def coursesFrom (table : String) : Command :=
  .ask (.junction "taken" "enrolments" .first (.related table)) {}

/-- The question with the wrong table fails only after it has built an index. -/
theorem failed_step_leaves_no_trace_courses :
    ((after {} courseRegister).step (coursesFrom "students")).1.result.isAnswered = false ∧
      ∃ r r', (run (courseRegister ++ [coursesFrom "students", coursesFrom "courses"]))[5]? = some r ∧
        (run (courseRegister ++ [coursesFrom "courses"]))[4]? = some r' ∧ r.result = r'.result := by
  have hids : ((tablesBuilt {} (courseRegister ++ [coursesFrom "students", coursesFrom "courses"])).map
      Table.id).Nodup := by decide +kernel
  have hfailed : ((after {} courseRegister).step (coursesFrom "students")).1.result.isAnswered =
      false := by decide +kernel
  have htrace := failed_step_leaves_no_trace hids hfailed
  refine ⟨hfailed, htrace.2.1 0 (coursesFrom "courses") rfl ?_⟩
  rintro (h | ⟨name, h, -⟩)
  · contradiction
  · contradiction

end StaticTables.Session
