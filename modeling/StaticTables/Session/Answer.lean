import StaticTables.Session.Answer.Linked
import StaticTables.Session.Answer.Named
import StaticTables.Session.Answer.Stored

/-!
Answering questions: each goes to the named object, if that is of the kind asked. The object is
looked up before anything else.
-/
namespace StaticTables.Session

def inspectPath (s : Session) : Path → Except Refusal String
  | .object name => do
    match ← s.object name with
    | .table _ t => return t.inspect
    | .index _ i => return i.inspect
    | .lazyIndex _ l => return l.inspect
    | .relationship r => return r.inspect
    | .partner p => return p.inspect
    | .junction x => return x.inspect
    | .hierarchy h => return h.inspect
    | .variant _ c => return c.inspect
    | .labels _ m => return m.inspect
    | .keys .. | .external .. => throw .unfit
  | path => Relationship.inspect <$> s.relationship path

/-- Answers a question. -/
def answer (v : View) : Query → Action Reply
  | .inspect path => return .text (some (← Action.look fun s => s.inspectPath path))
  | .table name query => do answerTable v (← Action.table name) query
  | .index path table other query => answerIndexPath v table other query path
  | .lazyIndex name query => answerLazy name query
  | .relationship path query => do
    answerRelationship v path (← Action.look fun s => s.relationship path) query
  | .partner name query => do
    answerPartner v (← Action.look fun s => s.partner name) query
  | .junction name junction row query => do
    let x ← Action.look fun s => s.junction name
    let t ← Action.table junction
    answerJunction v name x t row query
  | .parentRef name record => do
    let h ← Action.look fun s => s.hierarchy name
    return .row ((h.parentRef (← Action.record record)).map Ref.row)
  | .hierarchy name table query => do
    let h ← Action.look fun s => s.hierarchy name
    let t ← Action.table table
    answerHierarchy v name h t query
  | .variantInfo name => do
    let (_, c) ← variantColumn name
    return .variantInfo c.name c.source c.isOptional
  | .variantOf name record => do
    let (tags, c) ← variantColumn name
    let value := c.valueOf (← Action.record record)
    return .variant (value.map fun value => (tags.getD value.tag "", value.row))
  | .variant name table query => do
    let (tags, c) ← variantColumn name
    let t ← Action.table table
    answerVariant v name tags c t query
  | .labels name query => do
    match ← Action.object name with
    | .labels labels m => answerLabels v labels m query
    | _ => throw .noSuchObject
  | .keys name query => do
    match ← Action.object name with
    | .keys labels k => answerKeys labels k query
    | _ => throw .noSuchObject
  | .external name query => do
    match ← Action.object name with
    | .external i => answerExternal i query
    | _ => throw .noSuchObject

end StaticTables.Session
