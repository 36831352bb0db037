import StaticTables.Session.Action

/-!
Questions to label maps, external keys and external records. Labels are found by their texts among
all that exist, declared or not.
-/
namespace StaticTables.Session

def answerLabels (v : View) (labels : List NamedLabel) (m : LabelMap NamedLabel) :
    LabelQuery → Action Reply
  | .info => return .labelsInfo m.size m.isTotal (m.labels.all.map NamedLabel.text)
  | .labelAt position => return .text (some (← m.labelAt position).text)
  | .rowOf label => return .row (some (m.rowOf (← findLabel labels label)))
  | .recordOf table label => do
    let t ← Action.table table
    let label ← findLabel labels label
    return v.record t (some (← m.recordOf t label))
  | .labelOf table record => do
    let t ← Action.table table
    let record ← Action.record record
    return .text ((m.labelOf t record).map NamedLabel.text)

def answerKeys (labels : List NamedLabel) (k : LabelKeys NamedLabel ExternalKey) :
    KeyQuery → Action Reply
  | .keyOf label => return .key (k.keyOf (← findLabel labels label))
  | .labelOf key => return .text ((k.labelOf key).map NamedLabel.text)
  | .findRecord label records => do
    let label ← findLabel labels label
    return .external (k.findRecord records ExternalRecord.key label)

def answerExternal (i : KeyedRecords ExternalKey ExternalRecord) : ExternalQuery → Action Reply
  | .info => return .externalInfo i.size
  | .record key => return .external (i.record? key)
  | .recordOf keys label => do
    match ← Action.object keys with
    | .keys labels k => return .external (i.recordOf k (← findLabel labels label))
    | _ => throw .noSuchObject

end StaticTables.Session
