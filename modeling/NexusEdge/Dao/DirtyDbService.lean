import NexusEdge.Base.JsArray
import NexusEdge.Base.JsObject
import NexusEdge.Base.Transition
import NexusEdge.Platform.LinkGraph
import NexusEdge.Platform.Path

/-!
# Database access

Library `Dao`. `dirty-db-service.js` and the two collections on top of it, in one process. The
first access to a collection loads it from its file; every load makes an instance of its own,
and the instance loaded last is the one cached. An operation runs later than it is called, on
the instance it was handed.
-/

namespace NexusEdge.Dao
open NexusEdge.Base NexusEdge.Platform

/-- `App`, `apps-dao.js:5–13`. -/
structure App where
  id : String
  name : String
  executablePath : Path
  metadataPath : Path
  runtime : String
  deriving DecidableEq

/-- Records are stored under their `id`. -/
class HasId (Record : Type) where
  id : Record → String

instance : HasId App := ⟨App.id⟩

instance : HasId Device := ⟨Device.id⟩

/-- `appsDbName`, `apps-dao.js:3`. -/
def appsDbName : String := "apps"

/-- `devicesDbName`, `devices-dao.js:3`. -/
def devicesDbName : String := "devices"

/-- An operation of a collection. -/
inductive Call (Record : Type) where
  | add (record : Record)
  | remove (id : String)
  | find (id : String)
  | fetchAll
  | fetchSpecific (ids : List String)

/-- How the promise of an operation is settled. -/
inductive Result (Record : Type) where
  | resolved
  | rejected
  | found (record : Option Record)
  | fetched (records : List Record)
  deriving DecidableEq

/-- A write to a database, appended to its file later on. -/
inductive Change (Record : Type) where
  | set (record : Record)
  | rm (id : String)

variable {Record : Type} [HasId Record]

/-- `db.set` or `db.rm`. -/
def Change.apply (db : JsObject Record) : Change Record → JsObject Record
  | .set record => db.set (HasId.id record) record
  | .rm id => db.erase id

/-- The write an operation makes; `addApp` (`apps-dao.js:20–31`) keeps a record that is there,
`removeApp` (`apps-dao.js:38–49`) needs one. -/
def Call.change (db : JsObject Record) : Call Record → Option (Change Record)
  | .add record => if db.hasOwn (HasId.id record) then none else some (.set record)
  | .remove id => if db.hasOwn id then some (.rm id) else none
  | .find _ => none
  | .fetchAll => none
  | .fetchSpecific _ => none

/-- What an operation answers, `apps-dao.js:20–92` and `devices-dao.js:20–74`. -/
def Call.result (db : JsObject Record) : Call Record → Result Record
  | .add _ => .resolved
  | .remove id => if db.hasOwn id then .resolved else .rejected
  | .find id => .found (db.get? id)
  | .fetchAll => .fetched (db.ownEntries.map Prod.snd)
  | .fetchSpecific ids =>
    .fetched ((db.ownEntries.filter fun entry ↦ entry.1 ∈ ids).map Prod.snd)

/-- The id an operation removes. -/
def Call.removes? : Call Record → Option String
  | .remove id => some id
  | _ => none

/-- An add that has resolved: its record, and what was stored under the id before. -/
structure Added (Record : Type) where
  dbName : String
  record : Record
  found : Option Record
  deriving DecidableEq

/-- The record an add leaves in the store; one that is there stays. -/
def Added.kept (added : Added Record) : Record := added.found.getD added.record

/-- A call not yet run, with the adds it is entitled to see. -/
structure Pending (Record : Type) where
  ticket : Nat
  dbName : String
  call : Call Record
  expected : List (Added Record)

/-- A call that waits for the load it started; the content once the file has been read. -/
structure Loading (Record : Type) where
  pending : Pending Record
  content : Option (JsObject Record)

/-- A call whose continuation is in the queue, with the instance it was handed. -/
structure Ready (Record : Type) where
  pending : Pending Record
  db : Nat

/-- A call that has been run, and its result. -/
structure Answer (Record : Type) where
  pending : Pending Record
  result : Result Record

/-- `DirtyDbService` with the files, the instances, and the calls made to it. -/
structure DirtyDbService (Record : Type) where
  dbCache : JsObject Nat
  instances : List (JsObject Record)
  loading : List (Loading Record)
  /-- Continuations run in the order in which they are enqueued. -/
  ready : List (Ready Record)
  files : JsObject (JsObject Record)
  /-- Writes not yet in the files. -/
  unflushed : List (String × Change Record)
  calls : Nat
  /-- Adds that have resolved and whose id has not been removed since. -/
  visible : List (Added Record)
  answers : List (Answer Record)

namespace DirtyDbService

/-- A started process: nothing is loaded. -/
def initial (files : JsObject (JsObject Record)) : DirtyDbService Record :=
  ⟨JsObject.empty, [], [], [], files, [], 0, [], []⟩

/-- The content of an instance. -/
def content (s : DirtyDbService Record) (db : Nat) : JsObject Record :=
  (s.instances[db]?).getD JsObject.empty

/-- A removal of this id has been called and not yet run. -/
def Removing (s : DirtyDbService Record) (dbName id : String) : Prop :=
  ∃ p ∈ s.loading.map Loading.pending ++ s.ready.map Ready.pending,
    p.dbName = dbName ∧ p.call.removes? = some id

instance (s : DirtyDbService Record) (dbName id : String) : Decidable (s.Removing dbName id) :=
  inferInstanceAs (Decidable (∃ p ∈ s.loading.map Loading.pending ++ s.ready.map Ready.pending,
    p.dbName = dbName ∧ p.call.removes? = some id))

/-- The resolved adds of a collection whose ids no removal has been called for. -/
def expected (s : DirtyDbService Record) (dbName : String) : List (Added Record) :=
  s.visible.filter fun added ↦
    added.dbName = dbName ∧ ¬ s.Removing dbName (HasId.id added.record)

/-- A call on a collection, up to the result of `getDb`, `dirty-db-service.js:43–51`. -/
def call (s : DirtyDbService Record) (dbName : String) (c : Call Record) :
    DirtyDbService Record :=
  let pending : Pending Record := ⟨s.calls, dbName, c, s.expected dbName⟩
  let s := { s with calls := s.calls + 1 }
  match s.dbCache.get? dbName with
  | some db => { s with ready := s.ready ++ [⟨pending, db⟩] }
  | none => { s with loading := s.loading ++ [⟨pending, none⟩] }

/-- `addApp`, `apps-dao.js:20–31`. -/
def addApp (s : DirtyDbService Record) (app : Record) : DirtyDbService Record :=
  s.call appsDbName (.add app)

/-- `removeApp`, `apps-dao.js:38–49`. -/
def removeApp (s : DirtyDbService Record) (appId : String) : DirtyDbService Record :=
  s.call appsDbName (.remove appId)

/-- `addDevice`, `devices-dao.js:20–31`. -/
def addDevice (s : DirtyDbService Record) (device : Record) : DirtyDbService Record :=
  s.call devicesDbName (.add device)

/-- `find` of a collection, `apps-dao.js:56–61`, `devices-dao.js:38–43`. -/
def find (s : DirtyDbService Record) (dbName id : String) : DirtyDbService Record :=
  s.call dbName (.find id)

/-- `fetchAll` of a collection, `apps-dao.js:67–75`, `devices-dao.js:49–57`. -/
def fetchAll (s : DirtyDbService Record) (dbName : String) : DirtyDbService Record :=
  s.call dbName .fetchAll

/-- `fetchSpecific` of a collection, `apps-dao.js:82–92`, `devices-dao.js:64–74`. -/
def fetchSpecific (s : DirtyDbService Record) (dbName : String) (ids : List String) :
    DirtyDbService Record :=
  s.call dbName (.fetchSpecific ids)

/-- The database of a load reads its file. -/
def readFile (s : DirtyDbService Record) (k : Nat) : DirtyDbService Record :=
  { s with loading := s.loading.modify k fun l ↦
      { l with content := some (l.content.getD ((s.files.get? l.pending.dbName).getD
        JsObject.empty)) } }

/-- A load completes: its instance is cached and handed on, `dirty-db-service.js:47–49`. -/
def finishLoad (s : DirtyDbService Record) (k : Nat) (l : Loading Record)
    (content : JsObject Record) : DirtyDbService Record :=
  { s with
    loading := s.loading.eraseIdx k
    instances := s.instances ++ [content]
    dbCache := s.dbCache.set l.pending.dbName s.instances.length
    ready := s.ready ++ [⟨l.pending, s.instances.length⟩] }

/-- How a call that runs changes the adds to be seen. -/
def seenAfter (visible : List (Added Record)) (db : JsObject Record) (dbName : String) :
    Call Record → List (Added Record)
  | .add record => visible ++ [⟨dbName, record, db.get? (HasId.id record)⟩]
  | .remove id => visible.filter fun added ↦ ¬ (added.dbName = dbName ∧ HasId.id added.record = id)
  | _ => visible

/-- The first continuation in the queue runs on its instance. -/
def runNext (s : DirtyDbService Record) (task : Ready Record) (rest : List (Ready Record)) :
    DirtyDbService Record :=
  let db := s.content task.db
  let change := task.pending.call.change db
  { s with
    ready := rest
    instances := s.instances.set task.db (change.elim db (Change.apply db))
    unflushed := s.unflushed ++ (change.map fun c ↦ (task.pending.dbName, c)).toList
    visible := seenAfter s.visible db task.pending.dbName task.pending.call
    answers := s.answers ++ [⟨task.pending, task.pending.call.result db⟩] }

/-- A write reaches its file. -/
def flush (s : DirtyDbService Record) (k : Nat) (entry : String × Change Record) :
    DirtyDbService Record :=
  { s with
    unflushed := s.unflushed.eraseIdx k
    files := s.files.set entry.1
      (entry.2.apply ((s.files.get? entry.1).getD JsObject.empty)) }

end DirtyDbService

/-- What happens in the process. -/
inductive DaoEvent (Record : Type) where
  | addApp (app : Record)
  | removeApp (appId : String)
  | addDevice (device : Record)
  | find (dbName id : String)
  | fetchAll (dbName : String)
  | fetchSpecific (dbName : String) (ids : List String)
  | readFile (k : Nat)
  | load (k : Nat)
  | run
  | flush (k : Nat)

namespace DirtyDbService

/-- One event; none when the event cannot happen. -/
def step (s : DirtyDbService Record) : DaoEvent Record → Option (DirtyDbService Record)
  | .addApp app => some (s.addApp app)
  | .removeApp appId => some (s.removeApp appId)
  | .addDevice device => some (s.addDevice device)
  | .find dbName id => some (s.find dbName id)
  | .fetchAll dbName => some (s.fetchAll dbName)
  | .fetchSpecific dbName ids => some (s.fetchSpecific dbName ids)
  | .readFile k => some (s.readFile k)
  | .load k =>
    match s.loading[k]? with
    | some l => l.content.map (s.finishLoad k l)
    | none => none
  | .run =>
    match s.ready with
    | task :: rest => some (s.runNext task rest)
    | [] => none
  | .flush k => (s.unflushed[k]?).map (s.flush k)

omit [HasId Record] in
/-- A load was under way before a file was read; it may have been the one that read it. -/
theorem mem_loading_readFile {s : DirtyDbService Record} {k : Nat} {l' : Loading Record}
    (h : l' ∈ (s.readFile k).loading) :
    ∃ l ∈ s.loading, l'.pending = l.pending ∧ (l'.content = l.content ∨
      l'.content = some (l.content.getD ((s.files.get? l.pending.dbName).getD
        JsObject.empty))) := by
  simp only [readFile] at h
  obtain ⟨i, hi⟩ := List.getElem?_of_mem h
  rw [List.getElem?_modify, Option.map_eq_map, Option.map_eq_some_iff] at hi
  obtain ⟨l, hl, rfl⟩ := hi
  refine ⟨l, List.mem_of_getElem? hl, ?_⟩
  split
  · exact ⟨rfl, Or.inr rfl⟩
  · exact ⟨rfl, Or.inl rfl⟩

/-- A load that completes has been read. -/
theorem step_load {s t : DirtyDbService Record} {k : Nat} (ht : s.step (.load k) = some t) :
    ∃ l, s.loading[k]? = some l ∧ ∃ content, l.content = some content ∧
      t = s.finishLoad k l content := by
  simp only [step] at ht
  split at ht
  · next l hl =>
    obtain ⟨content, hcontent, rfl⟩ := Option.map_eq_some_iff.mp ht
    exact ⟨l, hl, content, hcontent, rfl⟩
  · cases ht

/-- A call that runs is the first one in the queue. -/
theorem step_run {s t : DirtyDbService Record} (ht : s.step .run = some t) :
    ∃ task rest, s.ready = task :: rest ∧ t = s.runNext task rest := by
  simp only [step] at ht
  split at ht
  · next task rest hready =>
    cases ht
    exact ⟨task, rest, hready, rfl⟩
  · cases ht

/-- A write that reaches its file has been made. -/
theorem step_flush {s t : DirtyDbService Record} {k : Nat} (ht : s.step (.flush k) = some t) :
    ∃ entry, s.unflushed[k]? = some entry ∧ t = s.flush k entry := by
  obtain ⟨entry, hentry, rfl⟩ := Option.map_eq_some_iff.mp ht
  exact ⟨entry, hentry, rfl⟩

end DirtyDbService

/-! ### Reads see what has been added -/

/-- A read finds what the adds it is entitled to see have left in the store. -/
def Answer.Sees (answer : Answer Record) : Prop :=
  ∀ added ∈ answer.pending.expected,
    match answer.pending.call with
    | .find id => HasId.id added.record = id → answer.result = .found (some added.kept)
    | .fetchAll => ∃ records, answer.result = .fetched records ∧ added.kept ∈ records
    | .fetchSpecific ids => HasId.id added.record ∈ ids →
      ∃ records, answer.result = .fetched records ∧ added.kept ∈ records
    | .add _ => True
    | .remove _ => True

/-- The database after a call. -/
def Call.after (db : JsObject Record) (c : Call Record) : JsObject Record :=
  (c.change db).elim db (Change.apply db)

/-- A record stays unless its id is removed; an add does not replace it. -/
theorem get?_after {db : JsObject Record} {id : String} {record : Record}
    (h : db.get? id = some record) {c : Call Record} (hc : c.removes? ≠ some id) :
    (c.after db).get? id = some record := by
  cases c with
  | add added =>
    rw [Call.after, Call.change]
    split
    · exact h
    · next hown =>
      have hne : id ≠ HasId.id added := by
        rintro rfl
        exact hown ((JsObject.hasOwn_iff _ _).mpr ⟨record, h⟩)
      rw [Option.elim_some, Change.apply, JsObject.get?_set_ne _ _ hne]
      exact h
  | remove removed =>
    have hne : id ≠ removed := fun heq ↦ hc (congrArg some heq.symm)
    rw [Call.after, Call.change]
    split
    · rw [Option.elim_some, Change.apply, JsObject.get?_erase, if_neg hne]
      exact h
    · exact h
  | find _ => exact h
  | fetchAll => exact h
  | fetchSpecific _ => exact h

/-- An add leaves a record under its id. -/
theorem get?_after_add (db : JsObject Record) (dbName : String) (record : Record) :
    ((Call.add record).after db).get? (HasId.id record) =
      some (Added.mk dbName record (db.get? (HasId.id record))).kept := by
  rw [Call.after, Call.change, Added.kept]
  split
  · next hown =>
    obtain ⟨stored, hstored⟩ := (JsObject.hasOwn_iff _ _).mp hown
    rw [Option.elim_none, hstored, Option.getD_some]
  · next hown =>
    rw [Option.elim_some, Change.apply, JsObject.get?_set_self,
      JsObject.get?_of_not_hasOwn hown, Option.getD_none]

/-- A call run on a database with the records it is entitled to see finds them. -/
theorem sees_result {pending : Pending Record} {db : JsObject Record}
    (h : ∀ added ∈ pending.expected, db.get? (HasId.id added.record) = some added.kept) :
    (Answer.mk pending (pending.call.result db)).Sees := by
  intro added hadded
  have hget := h added hadded
  have hentry := (JsObject.mem_ownEntries_iff db _ _).mpr hget
  cases hcall : pending.call with
  | add record => trivial
  | remove id => trivial
  | find id =>
    rintro rfl
    rw [Call.result, hget]
  | fetchAll => exact ⟨_, rfl, List.mem_map_of_mem hentry⟩
  | fetchSpecific ids =>
    intro hid
    refine ⟨_, rfl, List.mem_map.mpr ⟨_, List.mem_filter.mpr ⟨hentry, ?_⟩, rfl⟩⟩
    exact decide_eq_true hid

namespace DirtyDbService

/-- All reads have seen what they are entitled to see. -/
def ReadsSeeAdds (s : DirtyDbService Record) : Prop := ∀ answer ∈ s.answers, answer.Sees

/-- A load completes only when its collection has no instance yet. -/
def SingleLoad (s : DirtyDbService Record) : DaoEvent Record → Prop
  | .load k => ∀ l ∈ s.loading[k]?, s.dbCache.get? l.pending.dbName = none
  | _ => True

instance (s : DirtyDbService Record) : DecidablePred s.SingleLoad := fun e ↦
  match e with
  | .load k =>
    inferInstanceAs (Decidable (∀ l ∈ s.loading[k]?, s.dbCache.get? l.pending.dbName = none))
  | .addApp _ => .isTrue trivial
  | .removeApp _ => .isTrue trivial
  | .addDevice _ => .isTrue trivial
  | .find _ _ => .isTrue trivial
  | .fetchAll _ => .isTrue trivial
  | .fetchSpecific _ _ => .isTrue trivial
  | .readFile _ => .isTrue trivial
  | .run => .isTrue trivial
  | .flush _ => .isTrue trivial

/-- The cached instance holds what the add has left. -/
def Stored (s : DirtyDbService Record) (added : Added Record) : Prop :=
  ∃ db, s.dbCache.get? added.dbName = some db ∧
    (s.content db).get? (HasId.id added.record) = some added.kept

/-- One instance for each collection, and everything visible is in it. -/
structure OneStore (s : DirtyDbService Record) : Prop where
  valid : ∀ dbName db, s.dbCache.get? dbName = some db → db < s.instances.length
  separate : ∀ dbName dbName' db, s.dbCache.get? dbName = some db →
    s.dbCache.get? dbName' = some db → dbName = dbName'
  handed : ∀ task ∈ s.ready, s.dbCache.get? task.pending.dbName = some task.db
  stored : ∀ added ∈ s.visible, s.Stored added
  entitled : ∀ task ∈ s.ready, ∀ added ∈ task.pending.expected,
    added.dbName = task.pending.dbName ∧ s.Stored added
  kept : s.ready.Pairwise fun earlier later ↦ ∀ added ∈ later.pending.expected,
    earlier.pending.dbName = added.dbName →
      earlier.pending.call.removes? ≠ some (HasId.id added.record)
  cold : ∀ l ∈ s.loading, l.pending.expected = []
  seen : s.ReadsSeeAdds

/-- A started process. -/
theorem oneStore_initial (files : JsObject (JsObject Record)) : (initial files).OneStore :=
  ⟨nofun, nofun, nofun, nofun, nofun, List.Pairwise.nil, nofun, nofun⟩

/-- A call is entitled to see what is stored. -/
theorem oneStore_call {s : DirtyDbService Record} (hs : s.OneStore) (dbName : String)
    (c : Call Record) : (s.call dbName c).OneStore := by
  have hexpected : ∀ added ∈ s.expected dbName,
      added ∈ s.visible ∧ added.dbName = dbName ∧
        ¬ s.Removing dbName (HasId.id added.record) := by
    intro added hadded
    obtain ⟨hvisible, hcond⟩ := List.mem_filter.mp hadded
    exact ⟨hvisible, of_decide_eq_true hcond⟩
  simp only [call]
  split
  · next db hdb =>
    refine ⟨hs.valid, hs.separate, fun task htask ↦ ?_, hs.stored, fun task htask ↦ ?_, ?_,
      hs.cold, hs.seen⟩
    · rcases List.mem_append.mp htask with htask | htask
      · exact hs.handed task htask
      · rw [List.mem_singleton.mp htask]
        exact hdb
    · rcases List.mem_append.mp htask with htask | htask
      · exact hs.entitled task htask
      · rw [List.mem_singleton.mp htask]
        intro added hadded
        obtain ⟨hvisible, hname, _⟩ := hexpected added hadded
        exact ⟨hname, hs.stored added hvisible⟩
    · rw [List.pairwise_append]
      refine ⟨hs.kept, List.pairwise_singleton _ _, fun earlier hearlier later hlater ↦ ?_⟩
      rw [List.mem_singleton.mp hlater]
      intro added hadded hname hremoves
      obtain ⟨_, hname', hnot⟩ := hexpected added hadded
      apply hnot
      exact ⟨earlier.pending, List.mem_append_right _ (List.mem_map_of_mem hearlier),
        hname.trans hname', hremoves⟩
  · next hnone =>
    refine ⟨hs.valid, hs.separate, hs.handed, hs.stored, hs.entitled, hs.kept, fun l hl ↦ ?_,
      hs.seen⟩
    rcases List.mem_append.mp hl with hl | hl
    · exact hs.cold l hl
    · rw [List.mem_singleton.mp hl]
      apply List.eq_nil_iff_forall_not_mem.mpr
      intro added hadded
      obtain ⟨hvisible, hname, _⟩ := hexpected added hadded
      obtain ⟨db, hdb, _⟩ := hs.stored added hvisible
      rw [hname, hnone] at hdb
      cases hdb

/-- Reading a file changes no instance. -/
theorem oneStore_readFile {s : DirtyDbService Record} (hs : s.OneStore) (k : Nat) :
    (s.readFile k).OneStore := by
  refine ⟨hs.valid, hs.separate, hs.handed, hs.stored, hs.entitled, hs.kept, fun l hl ↦ ?_,
    hs.seen⟩
  obtain ⟨l', hl', hpending, _⟩ := mem_loading_readFile hl
  rw [hpending]
  exact hs.cold l' hl'

/-- The first load of a collection makes its instance. -/
theorem oneStore_finishLoad {s : DirtyDbService Record} (hs : s.OneStore) {k : Nat}
    {l : Loading Record} (hk : s.loading[k]? = some l)
    (hfirst : s.dbCache.get? l.pending.dbName = none) (content : JsObject Record) :
    (s.finishLoad k l content).OneStore := by
  have hother {dbName : String} {db : Nat} (hdb : s.dbCache.get? dbName = some db) :
      (s.finishLoad k l content).dbCache.get? dbName = some db := by
    have hne : dbName ≠ l.pending.dbName := by
      rintro rfl
      rw [hfirst] at hdb
      cases hdb
    rw [finishLoad, JsObject.get?_set_ne _ _ hne]
    exact hdb
  have hcontent {db : Nat} (hdb : db < s.instances.length) :
      (s.finishLoad k l content).content db = s.content db := by
    simp only [finishLoad, DirtyDbService.content]
    rw [List.getElem?_append_left hdb]
  have hstored {added : Added Record} (h : s.Stored added) :
      (s.finishLoad k l content).Stored added := by
    obtain ⟨db, hdb, hget⟩ := h
    exact ⟨db, hother hdb, by rw [hcontent (hs.valid _ _ hdb)]; exact hget⟩
  have hcold : l.pending.expected = [] := hs.cold l (List.mem_of_getElem? hk)
  refine ⟨fun dbName db hdb ↦ ?_, fun dbName dbName' db hdb hdb' ↦ ?_, fun task htask ↦ ?_,
    fun added hadded ↦ hstored (hs.stored added hadded), fun task htask added hadded ↦ ?_, ?_,
    fun l' hl' ↦ hs.cold l' ((List.eraseIdx_sublist _ _).subset hl'), hs.seen⟩
  · simp only [finishLoad, List.length_append, List.length_singleton]
    rw [finishLoad, JsObject.get?_set] at hdb
    split at hdb
    · cases hdb
      omega
    · have hlt := hs.valid _ _ hdb
      omega
  · rw [finishLoad, JsObject.get?_set] at hdb hdb'
    split at hdb
    · next hname =>
      cases hdb
      split at hdb'
      · next hname' => exact hname.trans hname'.symm
      · exact absurd (hs.valid _ _ hdb') (lt_irrefl _)
    · split at hdb'
      · cases hdb'
        exact absurd (hs.valid _ _ hdb) (lt_irrefl _)
      · exact hs.separate _ _ _ hdb hdb'
  · rcases List.mem_append.mp htask with htask | htask
    · exact hother (hs.handed task htask)
    · rw [List.mem_singleton.mp htask, finishLoad, JsObject.get?_set_self]
  · rcases List.mem_append.mp htask with htask | htask
    · obtain ⟨hname, h⟩ := hs.entitled task htask added hadded
      exact ⟨hname, hstored h⟩
    · rw [List.mem_singleton.mp htask, hcold] at hadded
      cases hadded
  · rw [finishLoad, List.pairwise_append]
    refine ⟨hs.kept, List.pairwise_singleton _ _, fun earlier _ later hlater added hadded ↦ ?_⟩
    rw [List.mem_singleton.mp hlater, hcold] at hadded
    cases hadded

/-- The instance of a call that runs changes, no other one does. -/
theorem content_runNext {s : DirtyDbService Record} {task : Ready Record}
    (rest : List (Ready Record)) (hdb : task.db < s.instances.length) (db : Nat) :
    (s.runNext task rest).content db =
      if db = task.db then task.pending.call.after (s.content db) else s.content db := by
  simp only [runNext, content]
  by_cases h : db = task.db
  · rw [if_pos h, h, List.getElem?_set_self hdb]
    rfl
  · rw [if_neg h, List.getElem?_set_ne (Ne.symm h)]

/-- A call that runs removes what it is called to remove, and nothing else. -/
theorem stored_runNext {s : DirtyDbService Record} (hs : s.OneStore) {task : Ready Record}
    (htask : task ∈ s.ready) (rest : List (Ready Record)) {added : Added Record}
    (h : s.Stored added) (hkeep : task.pending.dbName = added.dbName →
      task.pending.call.removes? ≠ some (HasId.id added.record)) :
    (s.runNext task rest).Stored added := by
  have hhanded := hs.handed task htask
  obtain ⟨db, hdb, hget⟩ := h
  refine ⟨db, hdb, ?_⟩
  rw [content_runNext rest (hs.valid _ _ hhanded)]
  split
  · next heq =>
    subst heq
    exact get?_after hget (hkeep (hs.separate _ _ _ hhanded hdb))
  · exact hget

/-- What is visible after a call that runs is stored. -/
theorem visible_runNext {s : DirtyDbService Record} (hs : s.OneStore) {task : Ready Record}
    (htask : task ∈ s.ready) (rest : List (Ready Record)) {added : Added Record}
    (hadded : added ∈ (s.runNext task rest).visible) : (s.runNext task rest).Stored added := by
  have hhanded := hs.handed task htask
  simp only [runNext, seenAfter] at hadded
  split at hadded
  · next record hcall =>
    rcases List.mem_append.mp hadded with hadded | hadded
    · apply stored_runNext hs htask rest (hs.stored added hadded)
      rw [hcall]
      nofun
    · rw [List.mem_singleton.mp hadded]
      refine ⟨task.db, hhanded, ?_⟩
      rw [content_runNext rest (hs.valid _ _ hhanded), if_pos rfl, hcall]
      exact get?_after_add _ _ record
  · next id hcall =>
    obtain ⟨hadded, hother⟩ := List.mem_filter.mp hadded
    apply stored_runNext hs htask rest (hs.stored added hadded)
    intro hname hremoves
    rw [hcall] at hremoves
    exact of_decide_eq_true hother ⟨hname.symm, (Option.some.inj hremoves).symm⟩
  · next hadd hremove =>
    apply stored_runNext hs htask rest (hs.stored added hadded)
    intro _ hremoves
    cases hcall : task.pending.call with
    | remove id => exact hremove id hcall
    | add _ => rw [hcall] at hremoves; cases hremoves
    | find _ => rw [hcall] at hremoves; cases hremoves
    | fetchAll => rw [hcall] at hremoves; cases hremoves
    | fetchSpecific _ => rw [hcall] at hremoves; cases hremoves

/-- The first call in the queue runs on the instance of its collection. -/
theorem oneStore_runNext {s : DirtyDbService Record} (hs : s.OneStore) {task : Ready Record}
    {rest : List (Ready Record)} (hready : s.ready = task :: rest) :
    (s.runNext task rest).OneStore := by
  have htask : task ∈ s.ready := hready ▸ List.mem_cons_self
  have hrest {other : Ready Record} (h : other ∈ rest) : other ∈ s.ready :=
    hready ▸ List.mem_cons_of_mem task h
  have hkept := hs.kept
  rw [hready, List.pairwise_cons] at hkept
  refine ⟨fun dbName db hdb ↦ ?_, hs.separate, fun other h ↦ hs.handed other (hrest h),
    fun added hadded ↦ visible_runNext hs htask rest hadded, fun other h added hadded ↦ ?_,
    hkept.2, hs.cold, fun answer hanswer ↦ ?_⟩
  · simp only [runNext, List.length_set]
    exact hs.valid dbName db hdb
  · obtain ⟨hname, hstored⟩ := hs.entitled other (hrest h) added hadded
    exact ⟨hname, stored_runNext hs htask rest hstored (hkept.1 other h added hadded)⟩
  · rcases List.mem_append.mp hanswer with hanswer | hanswer
    · exact hs.seen answer hanswer
    · rw [List.mem_singleton.mp hanswer]
      apply sees_result
      intro added hadded
      obtain ⟨hname, db, hdb, hget⟩ := hs.entitled task htask added hadded
      have hsame : db = task.db := by
        have hhanded := hs.handed task htask
        rw [hname, hhanded] at hdb
        exact (Option.some.inj hdb).symm
      rw [← hsame]
      exact hget

/-- A single load of each collection keeps one store. -/
theorem oneStore_step {s t : DirtyDbService Record} {e : DaoEvent Record} (hs : s.OneStore)
    (hsingle : s.SingleLoad e) (h : step s e = some t) : t.OneStore := by
  cases e with
  | addApp app =>
    cases h
    exact oneStore_call hs appsDbName (.add app)
  | removeApp appId =>
    cases h
    exact oneStore_call hs appsDbName (.remove appId)
  | addDevice device =>
    cases h
    exact oneStore_call hs devicesDbName (.add device)
  | find dbName id =>
    cases h
    exact oneStore_call hs dbName (.find id)
  | fetchAll dbName =>
    cases h
    exact oneStore_call hs dbName .fetchAll
  | fetchSpecific dbName ids =>
    cases h
    exact oneStore_call hs dbName (.fetchSpecific ids)
  | readFile k =>
    cases h
    exact oneStore_readFile hs k
  | load k =>
    obtain ⟨l, hl, content, _, rfl⟩ := step_load h
    exact oneStore_finishLoad hs hl (hsingle l hl) content
  | run =>
    obtain ⟨task, rest, hready, rfl⟩ := step_run h
    exact oneStore_runNext hs hready
  | flush k =>
    obtain ⟨entry, _, rfl⟩ := step_flush h
    exact ⟨hs.valid, hs.separate, hs.handed, hs.stored, hs.entitled, hs.kept, hs.cold, hs.seen⟩

/-- In a run in which every collection is loaded once, every read sees the records that were
added before it was called and not removed since. -/
theorem readsSeeAdds_run (files : JsObject (JsObject Record)) (es : List (DaoEvent Record))
    (h : EachStep step SingleLoad (initial files) es) :
    Always step ReadsSeeAdds (initial files) es :=
  Always.imp step (fun _ hs ↦ hs.seen)
    (always_of_eachStep step (fun _ _ _ hs hsingle ht ↦ oneStore_step hs hsingle ht) es
      (oneStore_initial files) h)

/-- An application. -/
def sampleApp : App := ⟨"a", "app.js", ["a", "app.js"], ["a", "app.json"], "nodejs"⟩

/-- The collection is loaded for the add, the application is looked up afterwards. -/
def warmStart : List (DaoEvent App) :=
  [.addApp sampleApp, .readFile 0, .load 0, .run, .fetchAll appsDbName, .run]

/-- One load: the application is found. -/
theorem readsSeeAdds_warmStart :
    Always step ReadsSeeAdds (initial JsObject.empty) warmStart ∧
      (run step (initial JsObject.empty) warmStart).map (fun t ↦ t.visible) =
        some [⟨appsDbName, sampleApp, none⟩] :=
  ⟨readsSeeAdds_run JsObject.empty warmStart (by decide +kernel), by decide +kernel⟩

/-- An add and a `fetchAll` each load the collection; the load of the `fetchAll` completes
after the add has resolved. -/
def coldStart : List (DaoEvent App) :=
  [.addApp sampleApp, .fetchAll appsDbName, .readFile 0, .readFile 1, .load 0, .run, .load 0,
    .run, .find appsDbName "a", .run]

/-- The application added and never removed is not found. -/
theorem coldStart_misses :
    (run step (initial JsObject.empty) coldStart).map (fun t ↦
      (t.answers.getLast?).map fun answer ↦ (answer.pending.expected, answer.result)) =
      some (some ([⟨appsDbName, sampleApp, none⟩], .found none)) := by
  decide +kernel

end DirtyDbService
end NexusEdge.Dao
