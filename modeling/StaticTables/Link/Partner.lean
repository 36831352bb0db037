import StaticTables.Link.Relationship

/-!
One-to-one links, stored on both sides: each row references its partner and is referenced back by
it. Construction checks that the two sides link the same two tables and that each partner's
reference leads back, so that following a link twice comes back to where it started.
-/
namespace StaticTables

/-- A checked one-to-one link between records `A` and records `B`. -/
structure Partner (A B : Type) where
  /-- The references from `A` to `B`. -/
  forward : Relationship A B
  /-- The references from `B` to `A`. -/
  backward : Relationship B A

namespace Partner

variable {A B : Type}

/-- Refuses a side that links other tables than the two given. -/
def sameTables (side : Relationship A B) (source target : TableId) : Except Failure Unit :=
  if side.source = source ∧ side.target = target then .ok ()
  else refuse (.internal (.partnerSide side.name side.source side.target source target))

/-- Refuses the first row whose partner does not reference it back. -/
def symmetric (there : Relationship A B) (back : Relationship B A) (source : Table A)
    (target : Table B) : Except Failure Unit :=
  source.records.forM fun r =>
    match there.reference r.value with
    | none => .ok ()
    | some link => do
      let partner ← target.resolve link
      if back.reference partner.value = some { row := r.row } then .ok ()
      else refuse (.asymmetricPartner there.name r.row)

/-- Whether both sides lead back, the forward side looked at first. -/
def check (forward : Relationship A B) (backward : Relationship B A) (a : Table A)
    (b : Table B) : Except Failure Unit := do
  symmetric forward backward a b
  symmetric backward forward b a

/-- Pairs two relationships, checking that they are each other's inverse. -/
def build (settings : Settings) (forward : Relationship A B) (backward : Relationship B A)
    (a : Table A) (b : Table B) : Build (Partner A B) := do
  sameTables forward a.id b.id
  sameTables backward b.id a.id
  settings.validation.enforce .partner
    (locate a.name forward.name "partner.build" (check forward backward a b))
  Traced.emit (.partnerBuild forward.name backward.name)
  return { forward, backward }

/-- The pair with another state of its forward side. -/
def withForward (p : Partner A B) (r : Relationship A B) : Partner A B := { p with forward := r }

/-- The pair with another state of its backward side. -/
def withBackward (p : Partner A B) (r : Relationship B A) : Partner A B := { p with backward := r }

/-- The partner of a record of `A`. -/
def ofLeft (p : Partner A B) (b : Table B) (record : Record A) :
    Except Failure (Option (Record B)) :=
  p.forward.targetOf b record

/-- The partner of a record of `B`. -/
def ofRight (p : Partner A B) (a : Table A) (record : Record B) :
    Except Failure (Option (Record A)) :=
  p.backward.targetOf a record

def inspect (p : Partner A B) : String :=
  Text.inspectFields "Partner"
    [("forward", p.forward.inspect), ("backward", p.backward.inspect)]

end Partner

end StaticTables
