import Mathlib
import StaticTables.Link.Partner
import StaticTables.Proofs.Link.Inverse

/-!
# Where the scans of a pair stop

The sides of a pair are built before it, and all that is compared with the tables given are the
identities of theirs. Where these differ, the pair is refused. Where they agree, the scans read row
after row: one that leads to a row which does not lead back is reported, and one that leads out of
the table is a fault. References of sides built over the very tables given stay within them, so
their scans never fault; over other tables of the same identities they may.
-/
namespace StaticTables.Partner

variable {A B : Type}

/-! ## One row -/

/-- What a scan makes of a row. -/
def visit (there : Relationship A B) (back : Relationship B A) (target : Table B) (r : Record A) :
    Except Failure Unit :=
  match there.reference r.value with
  | none => .ok ()
  | some link => do
    let partner ← target.resolve link
    if back.reference partner.value = some { row := r.row } then .ok ()
    else refuse (.asymmetricPartner there.name r.row)

/-- Where the row holds a reference, this leads to a row of the target that leads back. -/
def LeadsBack (there : Relationship A B) (back : Relationship B A) (target : Table B)
    (r : Record A) : Prop :=
  ∀ link, there.reference r.value = some link →
    ∃ t ∈ target.records, link = ⟨t.row⟩ ∧ back.reference t.value = some ⟨r.row⟩

/-- What a scan stops at, and the failure that it stops with. -/
inductive Obstacle (there : Relationship A B) (back : Relationship B A) (target : Table B)
    (r : Record A) : Failure → Prop
  | lost {link : Ref B} (holds : there.reference r.value = some link)
      (outside : target.size ≤ link.index) :
    Obstacle there back target r (.fault (.outOfBounds target.size link.index))
  | unanswered {t : Record B} (holds : there.reference r.value = some ⟨t.row⟩)
      (inside : t ∈ target.records) (astray : back.reference t.value ≠ some ⟨r.row⟩) :
    Obstacle there back target r (.error { cause := .asymmetricPartner there.name r.row })

section Row

variable {there : Relationship A B} {back : Relationship B A} {target : Table B} {r : Record A}
  {failure : Failure}

theorem visit_of_none (h : there.reference r.value = none) :
    visit there back target r = .ok () := by
  rw [visit, h]

theorem visit_of_outside {link : Ref B} (h : there.reference r.value = some link)
    (outside : target.size ≤ link.index) :
    visit there back target r = .error (.fault (.outOfBounds target.size link.index)) := by
  have hresolve : target.resolve link =
      .error (.fault (.outOfBounds target.size link.index)) := target.row_of_le outside
  rw [visit, h]
  simp only [hresolve]
  rfl

theorem visit_of_inside {t : Record B} (h : there.reference r.value = some ⟨t.row⟩)
    (inside : t ∈ target.records) :
    visit there back target r =
      if back.reference t.value = some ⟨r.row⟩ then .ok ()
      else refuse (.asymmetricPartner there.name r.row) := by
  have hresolve : target.resolve ⟨t.row⟩ = .ok t := Table.row_of_mem inside
  rw [visit, h]
  simp only [hresolve]
  rfl

theorem Obstacle.visit_eq (h : Obstacle there back target r failure) :
    visit there back target r = .error failure := by
  cases h with
  | lost holds outside => exact visit_of_outside holds outside
  | unanswered holds inside astray => rw [visit_of_inside holds inside, if_neg astray, refuse]

theorem visit_cases (there : Relationship A B) (back : Relationship B A) (target : Table B)
    (r : Record A) :
    (LeadsBack there back target r ∧ visit there back target r = .ok ()) ∨
      ∃ failure, Obstacle there back target r failure := by
  cases hlink : there.reference r.value with
  | none =>
    refine .inl ⟨fun link holds => ?_, visit_of_none hlink⟩
    rw [hlink] at holds
    contradiction
  | some link =>
    -- Only behind a reference that stays inside there is a row that can lead back.
    by_cases hlt : link.index < target.size
    · obtain ⟨t, ht, rfl⟩ := Table.exists_mem_of_lt hlt
      by_cases hback : back.reference t.value = some ⟨r.row⟩
      · refine .inl ⟨fun link holds => ⟨t, ht, ?_, hback⟩, ?_⟩
        · rw [hlink] at holds
          exact (Option.some.inj holds).symm
        · rw [visit_of_inside hlink ht, if_pos hback]
      · exact .inr ⟨_, .unanswered hlink ht hback⟩
    · exact .inr ⟨_, .lost hlink (Nat.not_lt.mp hlt)⟩

theorem Obstacle.not_leadsBack (h : Obstacle there back target r failure) :
    ¬ LeadsBack there back target r := by
  intro leads
  cases h with
  | lost holds outside =>
    obtain ⟨t, ht, rfl, -⟩ := leads _ holds
    exact absurd (Table.lt_size_of_record (Table.mem_records_iff.mp ht)) (Nat.not_lt.mpr outside)
  | unanswered holds inside astray =>
    obtain ⟨t, ht, hsame, hback⟩ := leads _ holds
    obtain rfl := Table.eq_of_row_eq inside ht (congrArg Ref.row hsame)
    exact astray hback

theorem visit_eq_ok_iff : visit there back target r = .ok () ↔ LeadsBack there back target r := by
  rcases visit_cases there back target r with ⟨leads, hok⟩ | ⟨failure, obstacle⟩
  · exact iff_of_true hok leads
  · rw [obstacle.visit_eq]
    exact iff_of_false (by simp) obstacle.not_leadsBack

theorem visit_eq_error_iff :
    visit there back target r = .error failure ↔ Obstacle there back target r failure := by
  constructor
  · intro h
    rcases visit_cases there back target r with ⟨-, hok⟩ | ⟨first, obstacle⟩
    · rw [hok] at h
      contradiction
    · rw [obstacle.visit_eq] at h
      exact Except.error.inj h ▸ obstacle
  · exact Obstacle.visit_eq

end Row

/-! ## One scan, and both -/

/-- A scan of the source stops with this failure, at a row before which all lead back. -/
def StopsAt (there : Relationship A B) (back : Relationship B A) (source : Table A)
    (target : Table B) (failure : Failure) : Prop :=
  ∃ before r after, source.records = before ++ r :: after ∧
    (∀ q ∈ before, LeadsBack there back target q) ∧ Obstacle there back target r failure

/-- The check stops with this failure: in the scan of the forward side, or, where that comes to its
end, in the scan of the backward side. -/
def Stops (forward : Relationship A B) (backward : Relationship B A) (a : Table A) (b : Table B)
    (failure : Failure) : Prop :=
  StopsAt forward backward a b failure ∨
    (∀ r ∈ a.records, LeadsBack forward backward b r) ∧ StopsAt backward forward b a failure

section Scan

variable {forward : Relationship A B} {backward : Relationship B A} {a : Table A} {b : Table B}
  {failure : Failure}

theorem symmetric_eq_forM_visit :
    symmetric forward backward a b = a.records.forM (visit forward backward b) := rfl

theorem symmetric_eq_ok_iff_leadsBack :
    symmetric forward backward a b = .ok () ↔ ∀ r ∈ a.records, LeadsBack forward backward b r := by
  rw [symmetric_eq_forM_visit, forM_eq_ok_iff]
  exact forall₂_congr fun r _ => visit_eq_ok_iff

theorem symmetric_eq_error_iff :
    symmetric forward backward a b = .error failure ↔ StopsAt forward backward a b failure := by
  rw [symmetric_eq_forM_visit, forM_eq_error_iff]
  simp only [visit_eq_ok_iff, visit_eq_error_iff]
  rfl

theorem check_eq_ok_iff_leadsBack :
    check forward backward a b = .ok () ↔ (∀ r ∈ a.records, LeadsBack forward backward b r) ∧
      ∀ r ∈ b.records, LeadsBack backward forward a r := by
  rw [check, seq_eq_ok_iff, symmetric_eq_ok_iff_leadsBack, symmetric_eq_ok_iff_leadsBack]

theorem check_eq_error_iff :
    check forward backward a b = .error failure ↔ Stops forward backward a b failure := by
  rw [check, seq_eq_error_iff, symmetric_eq_error_iff, symmetric_eq_error_iff,
    symmetric_eq_ok_iff_leadsBack]
  rfl

/-- The references of the table's rows stay within the target. -/
def Within (there : Relationship A B) (source : Table A) (target : Table B) : Prop :=
  ∀ r ∈ source.records, ∀ link, there.reference r.value = some link → link.index < target.size

theorem within_of_builtOver (h : forward.BuiltOver a b) : Within forward a b := h.valid.inside

/-- A scan along references that stay within the target does not fault. -/
theorem Within.not_stopsAt_fault (h : Within forward a b) (f : Fault) :
    ¬ StopsAt forward backward a b (.fault f) := by
  rintro ⟨before, r, after, hrecords, -, obstacle⟩
  have hr : r ∈ a.records := hrecords ▸ List.mem_append_right _ List.mem_cons_self
  cases obstacle with
  | lost holds outside => exact absurd (h r hr _ holds) (Nat.not_lt.mpr outside)

theorem Within.not_stops_fault (hforward : Within forward a b) (hbackward : Within backward b a)
    (f : Fault) : ¬ Stops forward backward a b (.fault f) := by
  rintro (hthere | ⟨-, hback⟩)
  · exact hforward.not_stopsAt_fault f hthere
  · exact hbackward.not_stopsAt_fault f hback

end Scan

/-! ## Construction -/

section Build

variable {settings : Settings} {forward : Relationship A B} {backward : Relationship B A}
  {a a₁ a₂ : Table A} {b b₁ b₂ : Table B}

/-- The tables that the sides were built over carry the identities of the tables given. -/
def Namesakes (a a₁ a₂ : Table A) (b b₁ b₂ : Table B) : Prop :=
  (a₁.id = a.id ∧ b₁.id = b.id) ∧ b₂.id = b.id ∧ a₂.id = a.id

theorem sameTables_of_namesake (h : forward.BuiltOver a₁ b₁) (same : a₁.id = a.id ∧ b₁.id = b.id) :
    sameTables forward a.id b.id = .ok () :=
  if_pos ⟨h.sourced.source_eq.trans same.1, h.target_eq.trans same.2⟩

theorem sameTables_of_foreign (h : forward.BuiltOver a₁ b₁)
    (foreign : ¬ (a₁.id = a.id ∧ b₁.id = b.id)) :
    sameTables forward a.id b.id =
      refuse (.internal (.partnerSide forward.name a₁.id b₁.id a.id b.id)) := by
  rw [sameTables, h.sourced.source_eq, h.target_eq, if_neg foreign]

/-- Once the identities agree, the result is the verdict of the check. -/
theorem result_build_of_sameTables (strict : settings.validation = .strict)
    (hthere : sameTables forward a.id b.id = .ok ())
    (hback : sameTables backward b.id a.id = .ok ()) :
    ((build settings forward backward a b).run ()).result =
      (locate a.name forward.name "partner.build" (check forward backward a b)).map
        fun _ => { forward, backward } := by
  unfold build
  rw [hthere, hback, strict]
  cases check forward backward a b with
  | ok => rfl
  | error failure => cases failure <;> rfl

theorem result_build_eq_error_iff (strict : settings.validation = .strict)
    (hthere : sameTables forward a.id b.id = .ok ())
    (hback : sameTables backward b.id a.id = .ok ()) {e : Error} :
    ((build settings forward backward a b).run ()).result = .error (.error e) ↔
      ∃ e₀, Stops forward backward a b (.error e₀) ∧
        e = e₀.located a.name forward.name "partner.build" := by
  simp only [result_build_of_sameTables strict hthere hback, ← check_eq_error_iff]
  cases check forward backward a b with
  | ok => simp [locate, Except.map]
  | error failure => cases failure <;> simp [locate, Except.map, eq_comm]

theorem result_build_eq_fault_iff (strict : settings.validation = .strict)
    (hthere : sameTables forward a.id b.id = .ok ())
    (hback : sameTables backward b.id a.id = .ok ()) {f : Fault} :
    ((build settings forward backward a b).run ()).result = .error (.fault f) ↔
      Stops forward backward a b (.fault f) := by
  simp only [result_build_of_sameTables strict hthere hback, ← check_eq_error_iff]
  cases check forward backward a b with
  | ok => simp [locate, Except.map]
  | error failure => cases failure <;> simp [locate, Except.map]

/-- What comes of pairing a side built over `a₁` and `b₁` with one built over `b₂` and `a₂`, as
sides over `a` and `b`. -/
structure Outcomes (forward : Relationship A B) (backward : Relationship B A) (a a₁ a₂ : Table A)
    (b b₁ b₂ : Table B) (result : Except Failure (Partner A B)) : Prop where
  /-- Sides over tables of other identities are refused before any row is looked at. -/
  foreign : ¬ (a₁.id = a.id ∧ b₁.id = b.id) →
    result = refuse (.internal (.partnerSide forward.name a₁.id b₁.id a.id b.id))
  foreignBack : a₁.id = a.id ∧ b₁.id = b.id → ¬ (b₂.id = b.id ∧ a₂.id = a.id) →
    result = refuse (.internal (.partnerSide backward.name b₂.id a₂.id b.id a.id))
  paired_iff : (∃ p, result = .ok p) ↔ Namesakes a a₁ a₂ b b₁ b₂ ∧
    (∀ r ∈ a.records, LeadsBack forward backward b r) ∧
      ∀ r ∈ b.records, LeadsBack backward forward a r
  reports_iff : Namesakes a a₁ a₂ b b₁ b₂ → ∀ e, result = .error (.error e) ↔
    ∃ e₀, Stops forward backward a b (.error e₀) ∧
      e = e₀.located a.name forward.name "partner.build"
  faults_iff : ∀ f, result = .error (.fault f) ↔
    Namesakes a a₁ a₂ b b₁ b₂ ∧ Stops forward backward a b (.fault f)
  /-- Where the references stay within the tables given, there is a pair or an error. -/
  answered : Within forward a b → Within backward b a →
    (∃ p, result = .ok p) ∨ ∃ e, result = .error (.error e)

theorem outcomes_of_namesakes (strict : settings.validation = .strict)
    (hforward : forward.BuiltOver a₁ b₁) (hbackward : backward.BuiltOver b₂ a₂)
    (same : Namesakes a a₁ a₂ b b₁ b₂) :
    Outcomes forward backward a a₁ a₂ b b₁ b₂
      ((build settings forward backward a b).run ()).result := by
  have hthere := sameTables_of_namesake hforward same.1
  have hback := sameTables_of_namesake hbackward same.2
  have hfault := @result_build_eq_fault_iff A B settings forward backward a b strict hthere hback
  exact {
    foreign := fun foreign => absurd same.1 foreign
    foreignBack := fun _ foreign => absurd same.2 foreign
    paired_iff := by
      rw [and_iff_right same, ← check_eq_ok_iff_leadsBack,
        result_build_of_sameTables strict hthere hback]
      cases check forward backward a b with
      | ok => simp [locate, Except.map]
      | error failure => cases failure <;> simp [locate, Except.map]
    reports_iff := fun _ e => result_build_eq_error_iff strict hthere hback
    faults_iff := by
      intro f
      rw [hfault, and_iff_right same]
    answered := by
      intro hwithin hwithinBack
      cases hresult : ((build settings forward backward a b).run ()).result with
      | ok p => exact .inl ⟨p, rfl⟩
      | error failure =>
        cases failure with
        | error e => exact .inr ⟨e, rfl⟩
        | fault f => exact absurd (hfault.mp hresult) (hwithin.not_stops_fault hwithinBack f) }

theorem outcomes_of_refuse {misfit : Misfit} (other : ¬ Namesakes a a₁ a₂ b b₁ b₂)
    (h : ((build settings forward backward a b).run ()).result = refuse (.internal misfit))
    (foreign : ¬ (a₁.id = a.id ∧ b₁.id = b.id) →
      misfit = .partnerSide forward.name a₁.id b₁.id a.id b.id)
    (foreignBack : a₁.id = a.id ∧ b₁.id = b.id →
      misfit = .partnerSide backward.name b₂.id a₂.id b.id a.id) :
    Outcomes forward backward a a₁ a₂ b b₁ b₂
      ((build settings forward backward a b).run ()).result := by
  rw [h]
  exact {
    foreign := fun hforeign => by rw [foreign hforeign]
    foreignBack := fun same _ => by rw [foreignBack same]
    paired_iff := by simp [refuse, other]
    reports_iff := fun same => absurd same other
    faults_iff := by simp [refuse, other]
    answered := fun _ _ => .inr ⟨_, rfl⟩ }

/-- A strict construction gives a pair or reports an error, and over tables of other identities than
those of the sides it always reports one. It faults only where the sides were built over namesakes
of the tables given, at a row that leads out of the table before any other row is reported. -/
theorem build_faults_iff_led_outside (strict : settings.validation = .strict)
    (hforward : forward.BuiltOver a₁ b₁) (hbackward : backward.BuiltOver b₂ a₂) :
    Outcomes forward backward a a₁ a₂ b b₁ b₂
        ((build settings forward backward a b).run ()).result ∧
      (forward.BuiltOver a b → backward.BuiltOver b a →
        ∀ f, ((build settings forward backward a b).run ()).result ≠ .error (.fault f)) := by
  constructor
  -- The split follows the order of the refusals: the forward side is compared first.
  · by_cases hthere : a₁.id = a.id ∧ b₁.id = b.id
    · by_cases hback : b₂.id = b.id ∧ a₂.id = a.id
      · exact outcomes_of_namesakes strict hforward hbackward ⟨hthere, hback⟩
      · refine outcomes_of_refuse (fun same => hback same.2) ?_
          (fun foreign => absurd hthere foreign) fun _ => rfl
        unfold build
        rw [sameTables_of_namesake hforward hthere, sameTables_of_foreign hbackward hback]
        rfl
    · refine outcomes_of_refuse (fun same => hthere same.1) ?_ (fun _ => rfl)
        fun same => absurd same hthere
      unfold build
      rw [sameTables_of_foreign hforward hthere]
      rfl
  · intro given givenBack f
    have hthere := sameTables_of_namesake given ⟨rfl, rfl⟩
    have hback := sameTables_of_namesake givenBack ⟨rfl, rfl⟩
    rw [Ne, result_build_eq_fault_iff strict hthere hback]
    exact (within_of_builtOver given).not_stops_fault (within_of_builtOver givenBack) f

end Build

/-- Two people who are married to each other. -/
def couple : Table (Option RowId) where
  id := { value := 23 }
  name := "person"
  origin := 0
  rows := #[RowId.ofIndex? 1, RowId.ofIndex? 0]
  size_le := by decide

/-- Another table of the same identity, with the first of the two alone. -/
def widow : Table (Option RowId) where
  id := { value := 23 }
  name := "person"
  origin := 1
  rows := #[RowId.ofIndex? 1]
  size_le := by decide

/-- Whom each of the couple is married to. -/
def marriage : Relationship (Option RowId) (Option RowId) :=
  Relationship.ofValid {} { name := "spouse", cardinality := .oneToOne, optionality := .optional }
    couple couple (Option.map Ref.mk)

/-- The construction stops in the scan of the first side, at a row that leads out of the table. -/
theorem build_faults_iff_led_outside_widow :
    Settings.validation {} = .strict ∧ marriage.BuiltOver couple couple ∧
      Namesakes widow couple couple widow couple couple ∧
      Stops marriage marriage widow widow (.fault (.outOfBounds 1 1)) := by
  have built : marriage.BuiltOver couple couple :=
    ⟨_, _, _, Relationship.result_build_eq_ok_iff.mpr ⟨rfl, rfl⟩⟩
  have outcomes := (@build_faults_iff_led_outside _ _ {} marriage marriage widow couple couple widow
    couple couple rfl built built).1
  exact ⟨rfl, built, (outcomes.faults_iff _).mp rfl⟩

/-- Sides that were built over the couple make the construction over their namesake fault. It does
not report that they belong to another table. -/
theorem build_faults_over_widow :
    marriage.BuiltOver couple couple ∧
      ((build {} marriage marriage widow widow).run ()).result =
        .error (.fault (.outOfBounds 1 1)) := by
  constructor
  · exact ⟨_, _, _, Relationship.result_build_eq_ok_iff.mpr ⟨rfl, rfl⟩⟩
  · rfl

end StaticTables.Partner
