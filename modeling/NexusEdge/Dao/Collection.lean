import NexusEdge.Base.Loop
import NexusEdge.Dao.DirtyDbService

/-!
# A collection as a sequence of calls

Library `Dao`. What is stored, fetched or written has been added under its own id. A process
that uses one collection and loads it once applies its calls one after another to a single
database: the calls that wait lead from the store to the database they will leave behind.
-/

namespace NexusEdge.Dao
open NexusEdge.Base

variable {Record : Type} [HasId Record]

/-- The id whose record a call writes or removes. -/
def Call.target? : Call Record → Option String
  | .add record => some (HasId.id record)
  | .remove id => some id
  | .find _ => none
  | .fetchAll => none
  | .fetchSpecific _ => none

/-- The target of an add. -/
theorem target?_add {record : Record} {id : String} :
    (Call.add record).target? = some id ↔ HasId.id record = id := by
  rw [Call.target?, Option.some.injEq]

/-- The target of a removal. -/
theorem target?_remove {removed id : String} :
    (Call.remove removed : Call Record).target? = some id ↔ removed = id := by
  rw [Call.target?, Option.some.injEq]

/-- A call changes no record but that of its target. -/
theorem get?_after_of_ne {c : Call Record} {id : String} (h : c.target? ≠ some id)
    (db : JsObject Record) : (c.after db).get? id = db.get? id := by
  cases c with
  | add record =>
    have hne : id ≠ HasId.id record := fun heq ↦ h (congrArg some heq.symm)
    rw [Call.after, Call.change]
    split
    · rfl
    · rw [Option.elim_some, Change.apply, JsObject.get?_set_ne _ _ hne]
  | remove removed =>
    have hne : id ≠ removed := fun heq ↦ h (congrArg some heq.symm)
    rw [Call.after, Call.change]
    split
    · rw [Option.elim_some, Change.apply, JsObject.get?_erase, if_neg hne]
    · rfl
  | find _ => rfl
  | fetchAll => rfl
  | fetchSpecific _ => rfl

/-- A removed id has no record. -/
theorem get?_after_remove (removed id : String) (db : JsObject Record) :
    ((Call.remove removed).after db).get? id = if id = removed then none else db.get? id := by
  split
  · next hid =>
    subst hid
    rw [Call.after, Call.change]
    split
    · rw [Option.elim_some, Change.apply, JsObject.get?_erase, if_pos rfl]
    · next hown => rw [Option.elim_none, JsObject.get?_of_not_hasOwn hown]
  · next hne =>
    exact get?_after_of_ne (fun htarget ↦ hne (target?_remove.mp htarget).symm) db

/-- None of the removed ids has a record. -/
theorem get?_foldl_after_remove (ids : List String) (id : String) (db : JsObject Record) :
    ((ids.map Call.remove).foldl (fun db c ↦ c.after db) db).get? id =
      if id ∈ ids then none else db.get? id := by
  induction ids generalizing db with
  | nil => rfl
  | cons removed ids ih =>
    rw [List.map_cons, List.foldl_cons, ih, get?_after_remove]
    by_cases hid : id = removed <;> simp [hid]

/-- Calls change no record that is not among their targets. -/
theorem get?_foldl_after {calls : List (Call Record)} {id : String}
    (h : ∀ c ∈ calls, c.target? ≠ some id) (db : JsObject Record) :
    (calls.foldl (fun db c ↦ c.after db) db).get? id = db.get? id := by
  induction calls generalizing db with
  | nil => rfl
  | cons c calls ih =>
    rw [List.foldl_cons, ih fun c hc ↦ h c (List.mem_cons_of_mem _ hc),
      get?_after_of_ne (h c List.mem_cons_self)]

/-! ### Records under their ids -/

section Records

variable (P : Record → Prop)

/-- Every record of the database has the property and stands under its id. -/
def Keyed (db : JsObject Record) : Prop :=
  ∀ id record, db.get? id = some record → HasId.id record = id ∧ P record

/-- A record that the call adds has the property. -/
def Call.Adds (c : Call Record) : Prop := ∀ record, c = .add record → P record

variable {P}

/-- The empty database. -/
theorem keyed_empty : Keyed P (JsObject.empty : JsObject Record) := nofun

/-- A written record stands under its id. -/
theorem Keyed.set {db : JsObject Record} (h : Keyed P db) {record : Record} (hrecord : P record) :
    Keyed P (db.set (HasId.id record) record) := by
  intro id stored hget
  rw [JsObject.get?_set] at hget
  split at hget
  · next hid =>
    obtain rfl := Option.some.inj hget
    exact ⟨hid.symm, hrecord⟩
  · exact h id stored hget

/-- A removal keeps the other records. -/
theorem Keyed.erase {db : JsObject Record} (h : Keyed P db) (id : String) :
    Keyed P (db.erase id) := by
  intro id' stored hget
  rw [JsObject.get?_erase] at hget
  split at hget
  · cases hget
  · exact h id' stored hget

/-- A write of a record with the property. -/
def Change.Writes (P : Record → Prop) (change : Change Record) : Prop :=
  ∀ record, change = .set record → P record

/-- A database after a write. -/
theorem Keyed.apply {db : JsObject Record} (h : Keyed P db) {change : Change Record}
    (hchange : change.Writes P) : Keyed P (change.apply db) := by
  cases change with
  | set record => exact h.set (hchange record rfl)
  | rm id => exact h.erase id

/-- A call that adds such records makes such writes. -/
theorem writes_of_adds {c : Call Record} (hc : c.Adds P) {db : JsObject Record}
    {change : Change Record} (h : c.change db = some change) : change.Writes P := by
  intro record hrecord
  subst hrecord
  cases c with
  | add added =>
    rw [Call.change] at h
    split at h
    · cases h
    · cases h
      exact hc _ rfl
  | remove id =>
    rw [Call.change] at h
    split at h <;> cases h
  | find _ => cases h
  | fetchAll => cases h
  | fetchSpecific _ => cases h

/-- A database after a call. -/
theorem Keyed.after {db : JsObject Record} (h : Keyed P db) {c : Call Record} (hc : c.Adds P) :
    Keyed P (c.after db) := by
  rw [Call.after]
  cases hchange : c.change db with
  | none => exact h
  | some change => exact h.apply (writes_of_adds hc hchange)

/-- What a call fetches has the property and different ids. -/
theorem Keyed.fetched {db : JsObject Record} (h : Keyed P db) {c : Call Record}
    {records : List Record} (hresult : c.result db = .fetched records) :
    (records.map HasId.id).Nodup ∧ ∀ record ∈ records, P record := by
  have hentry : ∀ entry ∈ db.ownEntries, HasId.id entry.2 = entry.1 ∧ P entry.2 :=
    fun entry hentry ↦ h entry.1 entry.2 ((JsObject.mem_ownEntries_iff _ _ _).mp hentry)
  have hsub : ∀ entries : List (String × Record), entries.Sublist db.ownEntries →
      ((entries.map Prod.snd).map HasId.id).Nodup ∧ ∀ record ∈ entries.map Prod.snd, P record := by
    intro entries hentries
    constructor
    · have hids : (entries.map Prod.snd).map HasId.id = entries.map Prod.fst := by
        rw [List.map_map]
        exact List.map_congr_left fun entry he ↦ (hentry entry (hentries.subset he)).1
      rw [hids]
      exact (JsObject.nodup_keys db).sublist (hentries.map Prod.fst)
    · intro record hrecord
      obtain ⟨entry, he, rfl⟩ := List.mem_map.mp hrecord
      exact (hentry entry (hentries.subset he)).2
  cases c with
  | add _ => cases hresult
  | remove id =>
    rw [Call.result] at hresult
    split at hresult <;> cases hresult
  | find _ => cases hresult
  | fetchAll =>
    cases hresult
    exact hsub _ (List.Sublist.refl _)
  | fetchSpecific ids =>
    cases hresult
    exact hsub _ List.filter_sublist

namespace DirtyDbService

/-- The calls not yet run, those handed an instance first. -/
def pending (s : DirtyDbService Record) : List (Pending Record) :=
  s.ready.map Ready.pending ++ s.loading.map Loading.pending

/-- A call on a cached collection is handed its instance. -/
theorem call_of_some {s : DirtyDbService Record} {dbName : String} {db : Nat}
    (h : s.dbCache.get? dbName = some db) (c : Call Record) :
    s.call dbName c = { s with
      calls := s.calls + 1
      ready := s.ready ++ [⟨⟨s.calls, dbName, c, s.expected dbName⟩, db⟩] } := by
  simp only [call, h]

/-- A call on another collection starts a load. -/
theorem call_of_none {s : DirtyDbService Record} {dbName : String}
    (h : s.dbCache.get? dbName = none) (c : Call Record) :
    s.call dbName c = { s with
      calls := s.calls + 1
      loading := s.loading ++ [⟨⟨s.calls, dbName, c, s.expected dbName⟩, none⟩] } := by
  simp only [call, h]

/-- Calls are counted. -/
@[simp] theorem calls_call (s : DirtyDbService Record) (dbName : String) (c : Call Record) :
    (s.call dbName c).calls = s.calls + 1 := by
  rw [call]
  split <;> rfl

/-- A call is not answered before it runs. -/
@[simp] theorem answers_call (s : DirtyDbService Record) (dbName : String) (c : Call Record) :
    (s.call dbName c).answers = s.answers := by
  rw [call]
  split <;> rfl

/-- A call waits with those before it. -/
theorem mem_pending_call {s : DirtyDbService Record} {dbName : String} {c : Call Record}
    {p : Pending Record} (h : p ∈ (s.call dbName c).pending) :
    p ∈ s.pending ∨ p = ⟨s.calls, dbName, c, s.expected dbName⟩ := by
  cases hcache : s.dbCache.get? dbName with
  | some db =>
    rw [call_of_some hcache] at h
    simp only [pending, List.map_append, List.map_singleton, List.mem_append,
      List.mem_singleton] at h ⊢
    tauto
  | none =>
    rw [call_of_none hcache] at h
    simp only [pending, List.map_append, List.map_singleton, List.mem_append,
      List.mem_singleton] at h ⊢
    tauto

omit [HasId Record] in
/-- A call stays in the list of those that wait when its load completes. -/
theorem mem_pending_finishLoad {s : DirtyDbService Record} {k : Nat} {l : Loading Record}
    (hl : s.loading[k]? = some l) {content : JsObject Record} {p : Pending Record}
    (h : p ∈ (s.finishLoad k l content).pending) : p ∈ s.pending := by
  simp only [pending, DirtyDbService.finishLoad, List.map_append, List.map_singleton,
    List.mem_append, List.mem_singleton] at h
  rcases h with (h | rfl) | h
  · exact List.mem_append_left _ h
  · exact List.mem_append_right _ (List.mem_map_of_mem (List.mem_of_getElem? hl))
  · obtain ⟨l', hl', rfl⟩ := List.mem_map.mp h
    exact List.mem_append_right _ (List.mem_map_of_mem ((List.eraseIdx_sublist _ _).subset hl'))

/-- The call that runs was the first one to wait. -/
theorem pending_runNext {s : DirtyDbService Record} {task : Ready Record}
    {rest : List (Ready Record)} (hready : s.ready = task :: rest) :
    s.pending = task.pending :: (s.runNext task rest).pending := by
  rw [pending, pending, hready]
  rfl

/-- Every record in the files, the instances and on its way has the property and stands under
its id. -/
structure Holds (P : Record → Prop) (s : DirtyDbService Record) : Prop where
  files : ∀ dbName db, s.files.get? dbName = some db → Keyed P db
  instances : ∀ db ∈ s.instances, Keyed P db
  unflushed : ∀ entry ∈ s.unflushed, entry.2.Writes P
  calls : ∀ p ∈ s.pending, p.call.Adds P
  loaded : ∀ l ∈ s.loading, ∀ content ∈ l.content, Keyed P content
  answers : ∀ answer ∈ s.answers, ∀ records, answer.result = .fetched records →
    (records.map HasId.id).Nodup ∧ ∀ record ∈ records, P record

/-- A started process holds what is in the files. -/
theorem holds_initial {files : JsObject (JsObject Record)}
    (h : ∀ dbName db, files.get? dbName = some db → Keyed P db) : (initial files).Holds P :=
  ⟨h, nofun, nofun, nofun, nofun, nofun⟩

/-- The content of an instance. -/
theorem Holds.content {s : DirtyDbService Record} (hs : s.Holds P) (db : Nat) :
    Keyed P (s.content db) := by
  rw [DirtyDbService.content]
  cases hdb : s.instances[db]? with
  | none => exact keyed_empty
  | some content => exact hs.instances content (List.mem_of_getElem? hdb)

/-- The content of a file. -/
theorem Holds.file {s : DirtyDbService Record} (hs : s.Holds P) (dbName : String) :
    Keyed P ((s.files.get? dbName).getD JsObject.empty) := by
  cases hfile : s.files.get? dbName with
  | none => exact keyed_empty
  | some db => exact hs.files dbName db hfile

/-- A call of an operation that adds such records. -/
theorem Holds.call {s : DirtyDbService Record} (hs : s.Holds P) (dbName : String)
    {c : Call Record} (hc : c.Adds P) : (s.call dbName c).Holds P := by
  have hcalls : ∀ p ∈ (s.call dbName c).pending, p.call.Adds P := by
    intro p hp
    rcases mem_pending_call hp with hp | rfl
    · exact hs.calls p hp
    · exact hc
  cases hcache : s.dbCache.get? dbName with
  | some db =>
    rw [call_of_some hcache] at hcalls ⊢
    exact ⟨hs.files, hs.instances, hs.unflushed, hcalls, hs.loaded, hs.answers⟩
  | none =>
    rw [call_of_none hcache] at hcalls ⊢
    refine ⟨hs.files, hs.instances, hs.unflushed, hcalls, fun l hl ↦ ?_, hs.answers⟩
    rcases List.mem_append.mp hl with hl | hl
    · exact hs.loaded l hl
    · rw [List.mem_singleton.mp hl]
      nofun

/-- A database file is read. -/
theorem Holds.readFile {s : DirtyDbService Record} (hs : s.Holds P) (k : Nat) :
    (s.readFile k).Holds P := by
  refine ⟨hs.files, hs.instances, hs.unflushed, fun p hp ↦ ?_, fun l' hl' ↦ ?_, hs.answers⟩
  · rcases List.mem_append.mp hp with hp | hp
    · exact hs.calls p (List.mem_append_left _ hp)
    · obtain ⟨l', hl', rfl⟩ := List.mem_map.mp hp
      obtain ⟨l, hl, hpending, _⟩ := mem_loading_readFile hl'
      rw [hpending]
      exact hs.calls _ (List.mem_append_right _ (List.mem_map_of_mem hl))
  · obtain ⟨l, hl, _, hcontent⟩ := mem_loading_readFile hl'
    intro content hmem
    rcases hcontent with hcontent | hcontent
    · exact hs.loaded l hl content (hcontent ▸ hmem)
    · obtain rfl := Option.some.inj (hcontent.symm.trans hmem)
      cases hread : l.content with
      | none => exact hs.file _
      | some read => exact hs.loaded l hl read hread

/-- A load completes. -/
theorem Holds.finishLoad {s : DirtyDbService Record} (hs : s.Holds P) {k : Nat}
    {l : Loading Record} (hl : s.loading[k]? = some l) {content : JsObject Record}
    (hcontent : l.content = some content) : (s.finishLoad k l content).Holds P := by
  have hmem := List.mem_of_getElem? hl
  refine ⟨hs.files, fun db hdb ↦ ?_, hs.unflushed, fun p hp ↦ ?_, fun l' hl' ↦ ?_, hs.answers⟩
  · rcases List.mem_append.mp hdb with hdb | hdb
    · exact hs.instances db hdb
    · rw [List.mem_singleton.mp hdb]
      exact hs.loaded l hmem content hcontent
  · exact hs.calls p (mem_pending_finishLoad hl hp)
  · exact hs.loaded l' ((List.eraseIdx_sublist _ _).subset hl')

/-- A call runs. -/
theorem Holds.runNext {s : DirtyDbService Record} (hs : s.Holds P) {task : Ready Record}
    {rest : List (Ready Record)} (hready : s.ready = task :: rest) :
    (s.runNext task rest).Holds P := by
  have htask : task.pending.call.Adds P := by
    apply hs.calls
    rw [pending_runNext hready]
    exact List.mem_cons_self
  refine ⟨hs.files, fun db hdb ↦ ?_, fun entry hentry ↦ ?_, fun p hp ↦ ?_, hs.loaded,
    fun answer hanswer ↦ ?_⟩
  · rcases List.mem_or_eq_of_mem_set hdb with hdb | rfl
    · exact hs.instances db hdb
    · exact (hs.content task.db).after htask
  · rcases List.mem_append.mp hentry with hentry | hentry
    · exact hs.unflushed entry hentry
    · obtain ⟨change, hchange, rfl⟩ := Option.map_eq_some_iff.mp (Option.mem_toList.mp hentry)
      exact writes_of_adds htask hchange
  · apply hs.calls
    rw [pending_runNext hready]
    exact List.mem_cons_of_mem _ hp
  · rcases List.mem_append.mp hanswer with hanswer | hanswer
    · exact hs.answers answer hanswer
    · rw [List.mem_singleton.mp hanswer]
      intro records hrecords
      exact (hs.content task.db).fetched hrecords

/-- A write reaches its file. -/
theorem Holds.flush {s : DirtyDbService Record} (hs : s.Holds P) {k : Nat}
    {entry : String × Change Record} (hentry : s.unflushed[k]? = some entry) :
    (s.flush k entry).Holds P := by
  have hwrites := hs.unflushed entry (List.mem_of_getElem? hentry)
  refine ⟨fun dbName db hdb ↦ ?_, hs.instances, fun other hother ↦
    hs.unflushed other ((List.eraseIdx_sublist _ _).subset hother), hs.calls, hs.loaded, hs.answers⟩
  rw [DirtyDbService.flush, JsObject.get?_set] at hdb
  split at hdb
  · obtain rfl := Option.some.inj hdb
    exact (hs.file entry.1).apply hwrites
  · exact hs.files dbName db hdb

end DirtyDbService
end Records

/-! ### One collection, loaded once -/

namespace DirtyDbService

/-- The content of the file of a collection. -/
def file (s : DirtyDbService Record) (dbName : String) : JsObject Record :=
  (s.files.get? dbName).getD JsObject.empty

/-- The collection: its cached instance, before that its file. -/
def store (s : DirtyDbService Record) (dbName : String) : JsObject Record :=
  (s.dbCache.get? dbName).elim (s.file dbName) s.content

/-- The collection once the calls that wait have run in their order. -/
def eventual (s : DirtyDbService Record) (dbName : String) : JsObject Record :=
  s.pending.foldl (fun db p ↦ p.call.after db) (s.store dbName)

/-- Only one collection is in use, and it has been loaded at most once. -/
structure Alone (dbName : String) (s : DirtyDbService Record) : Prop where
  only : ∀ p ∈ s.pending, p.dbName = dbName
  cold : s.dbCache.get? dbName = none → s.ready = [] ∧ s.unflushed = [] ∧
    ∀ l ∈ s.loading, ∀ content ∈ l.content, content = s.file dbName
  warm : ∀ db, s.dbCache.get? dbName = some db →
    db < s.instances.length ∧ ∀ task ∈ s.ready, task.db = db

/-- A second load is under way, or will be once the first one completes. -/
def LoadsTwice (dbName : String) (s : DirtyDbService Record) : Prop :=
  s.loading ≠ [] ∧ (s.dbCache.hasOwn dbName ∨ 2 ≤ s.loading.length)

omit [HasId Record] in
/-- A started process. -/
theorem alone_initial (dbName : String) (files : JsObject (JsObject Record)) :
    (initial files).Alone dbName :=
  ⟨nofun, fun _ ↦ ⟨rfl, rfl, nofun⟩, nofun⟩

variable {dbName : String}

/-- A call on the collection. -/
theorem Alone.call {s : DirtyDbService Record} (hs : s.Alone dbName) (c : Call Record) :
    (s.call dbName c).Alone dbName := by
  have honly : ∀ p ∈ (s.call dbName c).pending, p.dbName = dbName := by
    intro p hp
    rcases mem_pending_call hp with hp | rfl
    · exact hs.only p hp
    · rfl
  cases hcache : s.dbCache.get? dbName with
  | some db =>
    rw [call_of_some hcache] at honly ⊢
    refine ⟨honly, fun hnone ↦ (nomatch hcache.symm.trans hnone), fun db' hdb' ↦ ?_⟩
    obtain rfl := Option.some.inj (hcache.symm.trans hdb')
    refine ⟨(hs.warm db hcache).1, fun task htask ↦ ?_⟩
    rcases List.mem_append.mp htask with htask | htask
    · exact (hs.warm db hcache).2 task htask
    · rw [List.mem_singleton.mp htask]
  | none =>
    obtain ⟨hready, hunflushed, hloaded⟩ := hs.cold hcache
    rw [call_of_none hcache] at honly ⊢
    refine ⟨honly, fun _ ↦ ⟨hready, hunflushed, fun l hl ↦ ?_⟩,
      fun db hdb ↦ nomatch hcache.symm.trans hdb⟩
    rcases List.mem_append.mp hl with hl | hl
    · exact hloaded l hl
    · rw [List.mem_singleton.mp hl]
      nofun

/-- A call changes nothing before it runs. -/
theorem store_call (s : DirtyDbService Record) (dbName dbName' : String) (c : Call Record) :
    (s.call dbName' c).store dbName = s.store dbName := by
  cases hcache : s.dbCache.get? dbName' with
  | some db => rw [call_of_some hcache]; rfl
  | none => rw [call_of_none hcache]; rfl

/-- A call runs after those that wait, unless there is a second load. -/
theorem eventual_call {s : DirtyDbService Record} (hs : s.Alone dbName)
    (hone : ¬ s.LoadsTwice dbName) (c : Call Record) :
    (s.call dbName c).eventual dbName = c.after (s.eventual dbName) := by
  cases hcache : s.dbCache.get? dbName with
  | some db =>
    have hloading : s.loading = [] := by
      by_contra hne
      exact hone ⟨hne, Or.inl ((JsObject.hasOwn_iff _ _).mpr ⟨db, hcache⟩)⟩
    rw [call_of_some hcache]
    simp only [eventual, pending, hloading, List.map_append, List.map_singleton, List.map_nil,
      List.append_nil, List.foldl_append, List.foldl_cons, List.foldl_nil]
    rfl
  | none =>
    obtain ⟨hready, _, _⟩ := hs.cold hcache
    rw [call_of_none hcache]
    simp only [eventual, pending, hready, List.map_append, List.map_singleton, List.map_nil,
      List.nil_append, List.foldl_append, List.foldl_cons, List.foldl_nil]
    rfl

omit [HasId Record] in
/-- The calls that wait are the same when a file is read. -/
theorem pending_readFile (s : DirtyDbService Record) (k : Nat) :
    (s.readFile k).pending = s.pending := by
  have hmap : ∀ (l : List (Loading Record)) (k : Nat) (f : Loading Record → Loading Record),
      (∀ a, (f a).pending = a.pending) → (l.modify k f).map Loading.pending =
        l.map Loading.pending := by
    intro l k f hf
    apply List.ext_getElem?
    intro i
    rw [List.getElem?_map, List.getElem?_modify, List.getElem?_map]
    cases l[i]? with
    | none => rfl
    | some a =>
      simp only [Option.map_eq_map, Option.map_some]
      split
      · rw [hf]
      · rfl
  rw [pending, pending, DirtyDbService.readFile]
  exact congrArg (s.ready.map Ready.pending ++ ·) (hmap s.loading k _ fun _ ↦ rfl)

omit [HasId Record] in
/-- Reading a file. -/
theorem Alone.readFile {s : DirtyDbService Record} (hs : s.Alone dbName) (k : Nat) :
    (s.readFile k).Alone dbName := by
  refine ⟨fun p hp ↦ hs.only p (by rwa [pending_readFile] at hp), fun hnone ↦ ?_, hs.warm⟩
  obtain ⟨hready, hunflushed, hloaded⟩ := hs.cold hnone
  refine ⟨hready, hunflushed, fun l' hl' content hcontent ↦ ?_⟩
  obtain ⟨l, hl, _, hread⟩ := mem_loading_readFile hl'
  have hname : l.pending.dbName = dbName :=
    hs.only _ (List.mem_append_right _ (List.mem_map_of_mem hl))
  rcases hread with hread | hread
  · exact hloaded l hl content (hread ▸ hcontent)
  · obtain rfl := Option.some.inj (hread.symm.trans hcontent)
    cases hread : l.content with
    | none => rw [Option.getD_none, hname]; rfl
    | some read => exact hloaded l hl read hread

/-- Reading a file leaves the collection as it is. -/
theorem eventual_readFile (s : DirtyDbService Record) (k : Nat) :
    (s.readFile k).eventual dbName = s.eventual dbName := by
  rw [eventual, pending_readFile]
  rfl

omit [HasId Record] in
/-- The load of the collection. -/
theorem Alone.finishLoad {s : DirtyDbService Record} (hs : s.Alone dbName) {k : Nat}
    {l : Loading Record} (hl : s.loading[k]? = some l)
    (hsingle : s.dbCache.get? l.pending.dbName = none) (content : JsObject Record) :
    (s.finishLoad k l content).Alone dbName := by
  have hname : l.pending.dbName = dbName :=
    hs.only _ (List.mem_append_right _ (List.mem_map_of_mem (List.mem_of_getElem? hl)))
  rw [hname] at hsingle
  obtain ⟨hready, _, _⟩ := hs.cold hsingle
  refine ⟨fun p hp ↦ ?_, fun hnone ↦ ?_, fun db hdb ↦ ?_⟩
  · exact hs.only p (mem_pending_finishLoad hl hp)
  · rw [DirtyDbService.finishLoad, hname, JsObject.get?_set_self] at hnone
    cases hnone
  · rw [DirtyDbService.finishLoad, hname, JsObject.get?_set_self] at hdb
    obtain rfl := Option.some.inj hdb
    simp only [DirtyDbService.finishLoad, hready, List.nil_append, List.length_append,
      List.length_singleton, List.mem_singleton, forall_eq, Nat.lt_succ_self, and_self]

omit [HasId Record] in
/-- The instance of the first load holds what is in the file. -/
theorem store_finishLoad {s : DirtyDbService Record} (hs : s.Alone dbName) {k : Nat}
    {l : Loading Record} (hl : s.loading[k]? = some l)
    (hsingle : s.dbCache.get? l.pending.dbName = none) {content : JsObject Record}
    (hcontent : l.content = some content) :
    (s.finishLoad k l content).store dbName = s.store dbName := by
  have hmem := List.mem_of_getElem? hl
  have hname : l.pending.dbName = dbName :=
    hs.only _ (List.mem_append_right _ (List.mem_map_of_mem hmem))
  rw [hname] at hsingle
  simp only [store, DirtyDbService.finishLoad, hname, JsObject.get?_set_self, hsingle,
    Option.elim_some, Option.elim_none, DirtyDbService.content, List.getElem?_concat_length,
    Option.getD_some]
  exact (hs.cold hsingle).2.2 l hmem content hcontent

/-- The only load leaves the collection as it will be. -/
theorem eventual_finishLoad {s : DirtyDbService Record} (hs : s.Alone dbName)
    (hone : ¬ s.LoadsTwice dbName) {k : Nat} {l : Loading Record}
    (hl : s.loading[k]? = some l) (hsingle : s.dbCache.get? l.pending.dbName = none)
    {content : JsObject Record} (hcontent : l.content = some content) :
    (s.finishLoad k l content).eventual dbName = s.eventual dbName := by
  have hmem := List.mem_of_getElem? hl
  have hname : l.pending.dbName = dbName :=
    hs.only _ (List.mem_append_right _ (List.mem_map_of_mem hmem))
  have hstore := store_finishLoad hs hl hsingle hcontent
  rw [hname] at hsingle
  obtain ⟨hready, _, _⟩ := hs.cold hsingle
  have hlength : s.loading.length < 2 := by
    by_contra hlong
    exact hone ⟨List.ne_nil_of_mem hmem, Or.inr (not_lt.mp hlong)⟩
  have hk : k < s.loading.length := (List.getElem?_eq_some_iff.mp hl).1
  have hloading : s.loading = [l] := by
    obtain ⟨l', hl'⟩ := List.length_eq_one_iff.mp (show s.loading.length = 1 by omega)
    obtain rfl : l = l' := List.mem_singleton.mp (hl' ▸ hmem)
    exact hl'
  have hzero : k = 0 := by omega
  rw [eventual, eventual, hstore]
  simp only [pending, DirtyDbService.finishLoad, hready, hloading, hzero, List.eraseIdx_cons_zero,
    List.map_nil, List.map_cons, List.nil_append, List.append_nil]

/-- A call of the collection runs. -/
theorem Alone.runNext {s : DirtyDbService Record} (hs : s.Alone dbName) {task : Ready Record}
    {rest : List (Ready Record)} (hready : s.ready = task :: rest) :
    (s.runNext task rest).Alone dbName := by
  refine ⟨fun p hp ↦ hs.only p ?_, fun hnone ↦ ?_, fun db hdb ↦ ?_⟩
  · rw [pending_runNext hready]
    exact List.mem_cons_of_mem _ hp
  · cases hready.symm.trans (hs.cold hnone).1
  · obtain ⟨hlt, htasks⟩ := hs.warm db hdb
    rw [hready] at htasks
    simp only [DirtyDbService.runNext, List.length_set]
    exact ⟨hlt, fun other hother ↦ htasks other (List.mem_cons_of_mem _ hother)⟩

/-- Running the first call that waits. -/
theorem store_runNext {s : DirtyDbService Record} (hs : s.Alone dbName) {task : Ready Record}
    {rest : List (Ready Record)} (hready : s.ready = task :: rest) :
    s.content task.db = s.store dbName ∧
      (s.runNext task rest).store dbName = task.pending.call.after (s.store dbName) := by
  cases hcache : s.dbCache.get? dbName with
  | none => cases hready.symm.trans (hs.cold hcache).1
  | some db =>
    obtain ⟨hlt, htasks⟩ := hs.warm db hcache
    have hdb : task.db = db := htasks task (hready ▸ List.mem_cons_self)
    have hstore : s.store dbName = s.content db := by rw [store, hcache, Option.elim_some]
    have hafter : (s.runNext task rest).store dbName = (s.runNext task rest).content db := by
      rw [store, DirtyDbService.runNext, hcache, Option.elim_some]
    refine ⟨by rw [hdb, hstore], ?_⟩
    rw [hafter, content_runNext rest (hdb ▸ hlt), if_pos hdb.symm, hstore]

/-- Running the first call leaves the collection as it will be. -/
theorem eventual_runNext {s : DirtyDbService Record} (hs : s.Alone dbName) {task : Ready Record}
    {rest : List (Ready Record)} (hready : s.ready = task :: rest) :
    (s.runNext task rest).eventual dbName = s.eventual dbName := by
  rw [eventual, (store_runNext hs hready).2, eventual, pending_runNext hready, List.foldl_cons]

/-- A write to a file. -/
theorem Alone.flush {s : DirtyDbService Record} (hs : s.Alone dbName) {k : Nat}
    {entry : String × Change Record} (hentry : s.unflushed[k]? = some entry) :
    (s.flush k entry).Alone dbName := by
  refine ⟨hs.only, fun hnone ↦ ?_, hs.warm⟩
  rw [(hs.cold hnone).2.1] at hentry
  cases hentry

/-- A write to a file leaves the cached collection alone. -/
theorem store_flush {s : DirtyDbService Record} (hs : s.Alone dbName) {k : Nat}
    {entry : String × Change Record} (hentry : s.unflushed[k]? = some entry) :
    (s.flush k entry).store dbName = s.store dbName := by
  cases hcache : s.dbCache.get? dbName with
  | none =>
    rw [(hs.cold hcache).2.1] at hentry
    cases hentry
  | some db =>
    rw [store, store, DirtyDbService.flush, hcache, Option.elim_some, Option.elim_some]
    rfl

/-- A write to a file leaves the collection as it will be. -/
theorem eventual_flush {s : DirtyDbService Record} (hs : s.Alone dbName) {k : Nat}
    {entry : String × Change Record} (hentry : s.unflushed[k]? = some entry) :
    (s.flush k entry).eventual dbName = s.eventual dbName := by
  rw [eventual, store_flush hs hentry]
  rfl

/-! ### A second load stays -/

/-- Calls do not end a second load. -/
theorem LoadsTwice.call {s : DirtyDbService Record} (hs : s.LoadsTwice dbName) (c : Call Record) :
    (s.call dbName c).LoadsTwice dbName := by
  obtain ⟨hne, hcase⟩ := hs
  cases hcache : s.dbCache.get? dbName with
  | some db =>
    rw [call_of_some hcache]
    exact ⟨hne, hcase⟩
  | none =>
    rw [call_of_none hcache]
    refine ⟨by simp, hcase.imp_right fun hlong ↦ ?_⟩
    rw [List.length_append]
    omega

omit [HasId Record] in
/-- Reading a file does not end a second load. -/
theorem LoadsTwice.readFile {s : DirtyDbService Record} (hs : s.LoadsTwice dbName) (k : Nat) :
    (s.readFile k).LoadsTwice dbName := by
  obtain ⟨hne, hcase⟩ := hs
  rw [← List.length_pos_iff] at hne
  refine ⟨?_, ?_⟩
  · rw [← List.length_pos_iff, DirtyDbService.readFile, List.length_modify]
    exact hne
  · rw [DirtyDbService.readFile, List.length_modify]
    exact hcase

omit [HasId Record] in
/-- The first of two loads leaves the second one under way. -/
theorem LoadsTwice.finishLoad {s : DirtyDbService Record} (hs : s.LoadsTwice dbName)
    (halone : s.Alone dbName) {k : Nat} {l : Loading Record} (hl : s.loading[k]? = some l)
    (hsingle : s.dbCache.get? l.pending.dbName = none) (content : JsObject Record) :
    (s.finishLoad k l content).LoadsTwice dbName := by
  obtain ⟨_, hcase⟩ := hs
  have hname : l.pending.dbName = dbName :=
    halone.only _ (List.mem_append_right _ (List.mem_map_of_mem (List.mem_of_getElem? hl)))
  rw [hname] at hsingle
  have hlong : 2 ≤ s.loading.length := by
    rcases hcase with hcached | hlong
    · rw [JsObject.hasOwn, hsingle] at hcached
      cases hcached
    · exact hlong
  have hk : k < s.loading.length := (List.getElem?_eq_some_iff.mp hl).1
  refine ⟨?_, Or.inl ?_⟩
  · rw [← List.length_pos_iff, DirtyDbService.finishLoad, List.length_eraseIdx_of_lt hk]
    omega
  · rw [DirtyDbService.finishLoad, hname]
    exact (JsObject.hasOwn_iff _ _).mpr ⟨_, JsObject.get?_set_self _ _ _⟩

/-- Calls made one after another run in that order, unless there is a second load. -/
theorem eventual_calls (calls : List (Call Record)) {s : DirtyDbService Record}
    (hs : s.Alone dbName) :
    (calls.foldl (fun s c ↦ s.call dbName c) s).LoadsTwice dbName ∨
      (calls.foldl (fun s c ↦ s.call dbName c) s).eventual dbName =
        calls.foldl (fun db c ↦ c.after db) (s.eventual dbName) := by
  induction calls generalizing s with
  | nil => exact Or.inr rfl
  | cons c calls ih =>
    by_cases htwice : s.LoadsTwice dbName
    · exact Or.inl (foldl_invariant (c :: calls) (fun c _ s hs ↦ hs.call c) s htwice)
    · rw [List.foldl_cons, List.foldl_cons, ← eventual_call hs htwice c]
      exact ih (hs.call c)

/-! ### Tickets -/

/-- How the calls go on: those that wait are old ones or have new tickets, those that were
answered had been waiting. -/
structure Continues (s t : DirtyDbService Record) : Prop where
  calls : s.calls ≤ t.calls
  pending : ∀ p ∈ t.pending, p ∈ s.pending ∨ (s.calls ≤ p.ticket ∧ p.ticket < t.calls)
  answers : ∀ a ∈ t.answers, a ∈ s.answers ∨ a.pending ∈ s.pending

namespace Continues

variable {s t : DirtyDbService Record}

omit [HasId Record] in
/-- Nothing happens. -/
theorem refl (s : DirtyDbService Record) : Continues s s :=
  ⟨le_refl _, fun _ ↦ Or.inl, fun _ ↦ Or.inl⟩

/-- One more call is made. -/
theorem call (h : Continues s t) (dbName : String) (c : Call Record) :
    Continues s (t.call dbName c) := by
  have hcalls := calls_call t dbName c
  have hle := h.calls
  refine ⟨by omega, fun p hp ↦ ?_, by rw [answers_call]; exact h.answers⟩
  rcases mem_pending_call hp with hp | rfl
  · refine (h.pending p hp).imp_right fun hticket ↦ ?_
    omega
  · right
    show s.calls ≤ t.calls ∧ t.calls < (t.call dbName c).calls
    omega

omit [HasId Record] in
/-- A database file is read. -/
theorem readFile (s : DirtyDbService Record) (k : Nat) : Continues s (s.readFile k) :=
  ⟨le_refl _, fun p hp ↦ Or.inl (by rwa [pending_readFile] at hp), fun _ ↦ Or.inl⟩

omit [HasId Record] in
/-- A load completes. -/
theorem finishLoad {k : Nat} {l : Loading Record} (hl : s.loading[k]? = some l)
    (content : JsObject Record) : Continues s (s.finishLoad k l content) :=
  ⟨le_refl _, fun _ hp ↦ Or.inl (mem_pending_finishLoad hl hp), fun _ ↦ Or.inl⟩

/-- A call runs and is answered. -/
theorem runNext {task : Ready Record} {rest : List (Ready Record)}
    (hready : s.ready = task :: rest) : Continues s (s.runNext task rest) := by
  refine ⟨le_refl _, fun p hp ↦ ?_, fun a ha ↦ ?_⟩
  · rw [pending_runNext hready]
    exact Or.inl (List.mem_cons_of_mem _ hp)
  · refine (List.mem_append.mp ha).imp_right fun ha ↦ ?_
    rw [List.mem_singleton.mp ha, pending_runNext hready]
    exact List.mem_cons_self

/-- A write reaches its file. -/
theorem flush (s : DirtyDbService Record) (k : Nat) (entry : String × Change Record) :
    Continues s (s.flush k entry) :=
  ⟨le_refl _, fun _ ↦ Or.inl, fun _ ↦ Or.inl⟩

end Continues

/-- Tickets are given out in the order of the calls. -/
structure Numbered (s : DirtyDbService Record) : Prop where
  pending : ∀ p ∈ s.pending, p.ticket < s.calls
  answers : ∀ a ∈ s.answers, a.pending.ticket < s.calls

omit [HasId Record] in
/-- The tickets stay in order. -/
theorem Numbered.continues {s t : DirtyDbService Record} (hs : s.Numbered) (h : Continues s t) :
    t.Numbered := by
  have hle := h.calls
  refine ⟨fun p hp ↦ ?_, fun a ha ↦ ?_⟩
  · rcases h.pending p hp with hp | ⟨_, hlt⟩
    · exact lt_of_lt_of_le (hs.pending p hp) hle
    · exact hlt
  · rcases h.answers a ha with ha | ha
    · exact lt_of_lt_of_le (hs.answers a ha) hle
    · exact lt_of_lt_of_le (hs.pending _ ha) hle

/-- The ticket has been given out, and only to a `fetchAll`. -/
structure Fetching (ticket : Nat) (s : DirtyDbService Record) : Prop where
  lt : ticket < s.calls
  call : ∀ p ∈ s.pending, p.ticket = ticket → p.call = .fetchAll

omit [HasId Record] in
/-- The ticket stays with its call. -/
theorem Fetching.continues {ticket : Nat} {s t : DirtyDbService Record} (hs : s.Fetching ticket)
    (h : Continues s t) : t.Fetching ticket := by
  refine ⟨lt_of_lt_of_le hs.lt h.calls, fun p hp hticket ↦ ?_⟩
  rcases h.pending p hp with hp | ⟨hle, _⟩
  · exact hs.call p hp hticket
  · have hlt := hs.lt
    omega

end DirtyDbService
end NexusEdge.Dao
