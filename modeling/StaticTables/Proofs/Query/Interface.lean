import Mathlib
import StaticTables.Traced

/-!
# Queries made one after the other

What objects of a kind can be asked is an interface. A query may change the object, and the next one
is put to what the one before left. Where all queries are stable under a likeness of objects, no
sequence of them tells two like objects apart, and no query is answered otherwise for what was asked
before it.
-/
namespace StaticTables

/-! ## Interfaces -/

/-- What objects of a kind can be asked, with the computation that answers it. -/
structure Interface (σ : Type) where
  Query : Type
  Answer : Query → Type
  ask : (q : Query) → Traced σ (Answer q)

namespace Interface

variable {σ : Type} (I : Interface σ)

/-- The object after some queries. -/
def after (s : σ) : List I.Query → σ
  | [] => s
  | q :: qs => after ((I.ask q).run s).state qs

/-- A query with its answer. -/
def answer (s : σ) (q : I.Query) : Σ q, Except Failure (I.Answer q) := ⟨q, ((I.ask q).run s).result⟩

/-- Some queries made one after the other, each with its answer. -/
def answers (s : σ) : List I.Query → List (Σ q, Except Failure (I.Answer q))
  | [] => []
  | q :: qs => I.answer s q :: answers ((I.ask q).run s).state qs

/-- What some queries log. -/
def log (s : σ) : List I.Query → List Event
  | [] => []
  | q :: qs => ((I.ask q).run s).log ++ log ((I.ask q).run s).state qs

variable {I}

theorem after_append (s : σ) (qs qs' : List I.Query) :
    I.after s (qs ++ qs') = I.after (I.after s qs) qs' := by
  induction qs generalizing s with
  | nil => rfl
  | cons q qs ih => exact ih _

theorem log_append (s : σ) (qs qs' : List I.Query) :
    I.log s (qs ++ qs') = I.log s qs ++ I.log (I.after s qs) qs' := by
  induction qs generalizing s with
  | nil => rfl
  | cons q qs ih =>
    rw [after, log, List.append_assoc, ← ih]
    rfl

/-- Queries that each leave the object alone and log nothing do so one after the other. -/
theorem after_of_idle {s : σ} {qs : List I.Query}
    (h : ∀ q ∈ qs, ((I.ask q).run s).state = s ∧ ((I.ask q).run s).log = []) :
    I.after s qs = s ∧ I.log s qs = [] := by
  induction qs with
  | nil => exact ⟨rfl, rfl⟩
  | cons q qs ih =>
    obtain ⟨hq, hqs⟩ := List.forall_mem_cons.mp h
    rw [after, log, hq.1, hq.2]
    exact ih hqs

variable (I)

/-- Where the first construction gives an object, the second gives one as well, and no sequence of
queries tells them apart. In any order, each query is answered as if it were made first. -/
def Interchangeable (first second : Build σ) : Prop :=
  ∀ s, (first.run ()).result = .ok s →
    ∃ t, (second.run ()).result = .ok t ∧
      ∀ qs, I.answers s qs = I.answers t qs ∧ I.answers s qs = qs.map (I.answer s)

end Interface

/-! ## Likeness -/

/-- A sense in which objects of a kind are alike. Those that are out of order are like none, not
even like themselves. -/
structure Likeness (σ : Type) where
  Like : σ → σ → Prop
  symm : ∀ {s t}, Like s t → Like t s
  trans : ∀ {s t u}, Like s t → Like t u → Like s u

namespace Likeness

variable {σ τ : Type}

theorem left (L : Likeness σ) {s t : σ} (h : L.Like s t) : L.Like s s := L.trans h (L.symm h)

theorem right (L : Likeness σ) {s t : σ} (h : L.Like s t) : L.Like t t := L.trans (L.symm h) h

/-- Objects in order are alike when a normal form of theirs is the same. -/
def upTo (inOrder : σ → Prop) (normal : σ → τ) : Likeness σ where
  Like s t := inOrder s ∧ inOrder t ∧ normal s = normal t
  symm h := ⟨h.2.1, h.1, h.2.2.symm⟩
  trans h h' := ⟨h.1, h'.2.1, h.2.2.trans h'.2.2⟩

/-- What an object has in common with its normal form, like objects have in common. -/
theorem eq_of_normal {β : Sort*} {inOrder : σ → Prop} {normal : σ → σ} {f : σ → β}
    (hf : ∀ s, f (normal s) = f s) {s t : σ} (h : (upTo inOrder normal).Like s t) : f s = f t := by
  rw [← hf s, h.2.2, hf t]

/-- Likeness in a part. -/
def on (L : Likeness τ) (part : σ → τ) : Likeness σ where
  Like s t := L.Like (part s) (part t)
  symm := L.symm
  trans := L.trans

/-- Likeness in two respects. -/
def and (L M : Likeness σ) : Likeness σ where
  Like s t := L.Like s t ∧ M.Like s t
  symm h := ⟨L.symm h.1, M.symm h.2⟩
  trans h h' := ⟨L.trans h.1 h'.1, M.trans h.2 h'.2⟩

end Likeness

/-! ## Stable computations -/

namespace Traced

variable {σ τ α β : Type}

/-- What an object says as it is. -/
def look (f : σ → Except Failure α) : Traced σ α := do
  ofExcept (f (← get))

/-- Like objects give the same result, and an object stays like what it was. -/
structure Stable (L : Likeness σ) (m : Traced σ α) : Prop where
  result_eq : ∀ {s t}, L.Like s t → (m.run s).result = (m.run t).result
  keeps : ∀ {s}, L.Like s s → L.Like s (m.run s).state

variable {L : Likeness σ} {m : Traced σ α}

theorem Stable.like_state (h : m.Stable L) {s t : σ} (hst : L.Like s t) :
    L.Like (m.run s).state (m.run t).state :=
  L.trans (L.symm (h.keeps (L.left hst))) (L.trans hst (h.keeps (L.right hst)))

/-- Stability depends on nothing but which objects are alike. -/
theorem Stable.congr {M : Likeness σ} (h : m.Stable L) (hiff : ∀ {s t}, M.Like s t ↔ L.Like s t) :
    m.Stable M where
  result_eq hst := h.result_eq (hiff.mp hst)
  keeps hs := hiff.mpr (h.keeps (hiff.mp hs))

/-- A computation that leaves the object alone and does not look at it. -/
theorem stable_of_run (r : Except Failure α) (log : List Event)
    (h : ∀ s, m.run s = { result := r, state := s, log := log }) : m.Stable L where
  result_eq hst := by rw [h, h]
  keeps hs := by rw [h]; exact hs

theorem stable_pure (a : α) : (pure a : Traced σ α).Stable L :=
  stable_of_run (.ok a) [] fun _ => rfl

theorem stable_emit (e : Event) : (emit e : Traced σ Unit).Stable L :=
  stable_of_run (.ok ()) [e] fun _ => rfl

theorem stable_emitAll (es : List Event) : (emitAll es : Traced σ Unit).Stable L :=
  stable_of_run (.ok ()) es fun _ => rfl

theorem stable_liftM (r : Except Failure α) : (liftM r : Traced σ α).Stable L :=
  stable_of_run r [] fun _ => rfl

theorem stable_building (b : Build α) : (building b : Traced σ α).Stable L :=
  stable_of_run (b.run ()).result (b.run ()).log fun _ => rfl

theorem Stable.bind {f : α → Traced σ β} (hm : m.Stable L) (hf : ∀ a, (f a).Stable L) :
    (m >>= f).Stable L where
  result_eq {s t} hst := by
    have hresult := hm.result_eq hst
    have hstate := hm.like_state hst
    rw [run_bind, run_bind]
    cases ht : (m.run t).result with
    | error failure => rw [hresult, ht]
    | ok a =>
      rw [hresult, ht]
      exact (hf a).result_eq hstate
  keeps {s} hs := by
    have hstate := hm.keeps hs
    rw [run_bind]
    cases (m.run s).result with
    | error failure => exact hstate
    | ok a => exact L.trans hstate ((hf a).keeps (L.right hstate))

/-- What a computation does after looking at the object may depend on all in which like objects
agree. -/
theorem stable_get_bind {f : σ → Traced σ α} (hf : ∀ s, (f s).Stable L)
    (hlike : ∀ {s t}, L.Like s t → f s = f t) : (get >>= f).Stable L where
  result_eq hst := by
    rw [run_get_bind, run_get_bind, hlike hst]
    exact (hf _).result_eq hst
  keeps hs := (hf _).keeps hs

theorem stable_look {f : σ → Except Failure α} (hlike : ∀ {s t}, L.Like s t → f s = f t) :
    (look f).Stable L :=
  stable_get_bind (fun s => stable_liftM (f s)) fun hst => by rw [hlike hst]

/-- A computation over a part is stable if likeness of the whole is likeness of the part, and the
part may be exchanged for a like one. -/
theorem Stable.within {M : Likeness τ} {part : σ → τ} {put : σ → τ → σ} {m : Traced τ α}
    (hm : m.Stable M) (hpart : ∀ {s t}, L.Like s t → M.Like (part s) (part t))
    (hput : ∀ {s u}, L.Like s s → M.Like (part s) u → L.Like s (put s u)) :
    (within part put m).Stable L where
  result_eq hst := hm.result_eq (hpart hst)
  keeps hs := hput hs (hm.keeps (hpart hs))

end Traced

/-! ## Stable interfaces -/

namespace Interface

variable {σ : Type} {I : Interface σ} {L : Likeness σ} {s t : σ}

/-- The object that a sequence of queries is put to stays like every object that it was like. -/
theorem answers_eq_map_of_like (h : ∀ q, (I.ask q).Stable L) (hst : L.Like s t)
    (qs : List I.Query) : I.answers s qs = qs.map (I.answer t) := by
  induction qs generalizing s with
  | nil => rfl
  | cons q qs ih =>
    have hfirst : I.answer s q = I.answer t q := by
      rw [answer, answer, (h q).result_eq hst]
    have hstate : L.Like ((I.ask q).run s).state t :=
      L.trans (L.symm ((h q).keeps (L.left hst))) hst
    rw [answers, List.map_cons, hfirst, ih hstate]

theorem like_after (h : ∀ q, (I.ask q).Stable L) (hs : L.Like s s) (qs : List I.Query) :
    L.Like s (I.after s qs) := by
  induction qs generalizing s with
  | nil => exact hs
  | cons q qs ih =>
    have hstate := (h q).keeps hs
    exact L.trans hstate (ih (L.right hstate))

theorem interchangeable_of_like (h : ∀ q, (I.ask q).Stable L) {first second : Build σ}
    (hbuild : ∀ s, (first.run ()).result = .ok s →
      ∃ t, (second.run ()).result = .ok t ∧ L.Like s t) : I.Interchangeable first second := by
  intro s hs
  obtain ⟨t, ht, hst⟩ := hbuild s hs
  refine ⟨t, ht, fun qs => ⟨?_, answers_eq_map_of_like h (L.left hst) qs⟩⟩
  rw [answers_eq_map_of_like h hst, answers_eq_map_of_like h (L.right hst)]

end Interface

end StaticTables
