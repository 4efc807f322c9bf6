import NexusEdge.Base.Search
import NexusEdge.Platform.LinkGraph

/-!
# Link graph traversal

Library `Api`. `getLinkGraphData` of `api-server/api/controllers/link-graph-controller.js:12–58`
asks one gateway after another for its neighbours, breadth first, and collects the link
graph from the answers. A gateway that cannot be reached is removed from the neighbour
lists collected so far, not from those that follow.
-/

namespace NexusEdge.Api
open NexusEdge.Base NexusEdge.Platform

/-- A queued gateway and an element of `"neighbors"`: `{id: xx, ip: yy}`. -/
@[ext] structure GatewayAddress where
  id : String
  ip : String
  deriving DecidableEq

/-- The answer of a gateway, `link-graph-controller.js:82–86`. -/
structure PartialLinkGraph where
  neighbors : List GatewayAddress
  devices : List Device
  apps : List AppListing

/-- The gateways that answer, by ip; requests to other ips fail. -/
abbrev GatewayNetwork := JsObject PartialLinkGraph

/-- `getPartialLinkGraphData`, `link-graph-controller.js:87–91`; `none` when it throws. -/
def getPartialLinkGraphData (network : GatewayNetwork) (gatewayIP : String) :
    Option PartialLinkGraph :=
  network.get? gatewayIP

/-- The variables of the loop, and the gateways requested so far. -/
structure Traversal where
  frontier : Frontier GatewayAddress String
  linkGraph : LinkGraph
  requested : List GatewayAddress

/-- The link graph before the first answer. -/
def emptyLinkGraph : LinkGraph := ⟨JsObject.empty, JsObject.empty⟩

/-- Before the loop, `link-graph-controller.js:13–22`. -/
def Traversal.initial (selfDetails : GatewayAddress) : Traversal :=
  ⟨Frontier.start GatewayAddress.id selfDetails, emptyLinkGraph, []⟩

/-- Removal of an unreachable gateway from all entries, `link-graph-controller.js:51–53`. -/
def prune (id : String) (graph : JsObject (List String)) : JsObject (List String) :=
  graph.ownEntries.foldl (fun graph entry ↦
    graph.set entry.1 (entry.2.filter fun neighbor ↦ neighbor ≠ id)) graph

/-- Assignments for the answer of a gateway, `link-graph-controller.js:31–34`. -/
def record (node : GatewayAddress) (partialLinkGraph : PartialLinkGraph) (linkGraph : LinkGraph) :
    LinkGraph where
  graph := linkGraph.graph.set node.id (partialLinkGraph.neighbors.map GatewayAddress.id)
  data := linkGraph.data.set node.id
    { ip := node.ip
      devices := partialLinkGraph.devices
      apps := partialLinkGraph.apps }

/-- The body of the loop for a dequeued gateway, `link-graph-controller.js:28–54`. -/
def visit (network : GatewayNetwork) (node : GatewayAddress) (s : Traversal) : Traversal :=
  let s := { s with requested := s.requested ++ [node] }
  match getPartialLinkGraphData network node.ip with
  | some partialLinkGraph =>
    { s with
      linkGraph := record node partialLinkGraph s.linkGraph
      frontier := partialLinkGraph.neighbors.foldl (Frontier.offer GatewayAddress.id) s.frontier }
  | none => { s with linkGraph := { s.linkGraph with graph := prune node.id s.linkGraph.graph } }

/-- One iteration of the loop; the loop ends on an empty queue, `link-graph-controller.js:24–25`. -/
def iteration (network : GatewayNetwork) (s : Traversal) : Option Traversal :=
  s.frontier.dequeue.map fun (node, frontier) ↦ visit network node { s with frontier := frontier }

/-- `getLinkGraphData`, `link-graph-controller.js:12–58`, on fuel. -/
def getLinkGraphData (network : GatewayNetwork) (selfDetails : GatewayAddress) (fuel : Nat) :
    Option Traversal :=
  whileLoop (iteration network) fuel (Traversal.initial selfDetails)

/-- The traversal terminates with these variables. -/
def Returns (network : GatewayNetwork) (selfDetails : GatewayAddress) (s : Traversal) : Prop :=
  ∃ fuel, getLinkGraphData network selfDetails fuel = some s

/-! ### Answers -/

/-- The neighbours a gateway reports; none if it fails. -/
def neighbors (network : GatewayNetwork) (node : GatewayAddress) : List GatewayAddress :=
  (getPartialLinkGraphData network node.ip).elim [] PartialLinkGraph.neighbors

/-- The entry of a gateway that answers. -/
def reported (network : GatewayNetwork) (node : GatewayAddress) : Option GatewayData :=
  (getPartialLinkGraphData network node.ip).map fun partialLinkGraph ↦
    ⟨node.ip, partialLinkGraph.devices, partialLinkGraph.apps⟩

/-- The gateway answers. -/
def Answers (network : GatewayNetwork) (node : GatewayAddress) : Prop :=
  (getPartialLinkGraphData network node.ip).isSome

/-- The gateway reports a neighbour of this id. -/
def ListsId (network : GatewayNetwork) (node : GatewayAddress) (id : String) : Prop :=
  id ∈ (neighbors network node).map GatewayAddress.id

instance (network : GatewayNetwork) (node : GatewayAddress) : Decidable (Answers network node) :=
  inferInstanceAs (Decidable (_ = true))

instance (network : GatewayNetwork) (node : GatewayAddress) (id : String) :
    Decidable (ListsId network node id) :=
  inferInstanceAs (Decidable (_ ∈ _))

section Answers

variable {network : GatewayNetwork}

private theorem answers_iff (node : GatewayAddress) :
    Answers network node ↔ ∃ d, reported network node = some d := by
  rw [Answers, reported, ← Option.isSome_iff_exists, Option.isSome_map]

private theorem Answers.of_listsId {node : GatewayAddress} {id : String}
    (h : ListsId network node id) : Answers network node := by
  rw [ListsId, neighbors] at h
  rw [Answers]
  cases hanswer : getPartialLinkGraphData network node.ip with
  | some _ => rfl
  | none =>
    rw [hanswer] at h
    cases h

end Answers

/-! ### The link graph of a list of requests -/

/-- The link graph after the answer of a gateway, or after it failed. -/
def collect (network : GatewayNetwork) (linkGraph : LinkGraph) (node : GatewayAddress) :
    LinkGraph :=
  (getPartialLinkGraphData network node.ip).elim
    { linkGraph with graph := prune node.id linkGraph.graph } (record node · linkGraph)

/-- The link graph after requests to these gateways. -/
def collected (network : GatewayNetwork) (requested : List GatewayAddress) : LinkGraph :=
  requested.foldl (collect network) emptyLinkGraph

/-- The list of one gateway contains the id of the other. -/
def HasEdge (linkGraph : LinkGraph) (id neighborId : String) : Prop :=
  ∃ ids, linkGraph.graph.get? id = some ids ∧ neighborId ∈ ids

section Collected

variable (network : GatewayNetwork)

private theorem get?_prune (id : String) (graph : JsObject (List String)) (k : String) :
    (prune id graph).get? k = (graph.get? k).map (List.filter fun neighbor ↦ neighbor ≠ id) := by
  rw [prune, JsObject.get?_foldl_set_ownEntries]
  cases graph.get? k <;> rfl

private theorem collected_append (l : List GatewayAddress) (node : GatewayAddress) :
    collected network (l ++ [node]) = collect network (collected network l) node := by
  rw [collected, List.foldl_append, List.foldl_cons, List.foldl_nil, collected]

private theorem hasOwn_graph_collect (linkGraph : LinkGraph) (node : GatewayAddress) (k : String) :
    (collect network linkGraph node).graph.hasOwn k ↔
      linkGraph.graph.hasOwn k ∨ (node.id = k ∧ Answers network node) := by
  unfold collect Answers
  cases getPartialLinkGraphData network node.ip with
  | none =>
    simp only [Option.elim_none, JsObject.hasOwn, get?_prune, Option.isSome_map]
    simp
  | some p =>
    simp only [Option.elim_some, record, JsObject.hasOwn, JsObject.get?_set]
    by_cases hk : k = node.id
    · simp [hk]
    · simp [hk, Ne.symm hk]

private theorem get?_data_collect (linkGraph : LinkGraph) (node : GatewayAddress) (k : String) :
    (collect network linkGraph node).data.get? k =
      if k = node.id then (reported network node).or (linkGraph.data.get? k)
      else linkGraph.data.get? k := by
  unfold collect reported
  cases getPartialLinkGraphData network node.ip with
  | none => simp
  | some p => simp [record, JsObject.get?_set]

private theorem hasEdge_collect (linkGraph : LinkGraph) (node : GatewayAddress) (id i : String) :
    HasEdge (collect network linkGraph node) id i ↔ (id = node.id ∧ ListsId network node i) ∨
      (HasEdge linkGraph id i ∧ (Answers network node → id ≠ node.id) ∧
        (i = node.id → Answers network node)) := by
  unfold HasEdge collect Answers ListsId neighbors
  cases hanswer : getPartialLinkGraphData network node.ip with
  | none =>
    simp only [Option.elim_none, get?_prune, Option.map_eq_some_iff, Option.isSome_none,
      Bool.false_eq_true, false_imp_iff, true_and, imp_false, List.map_nil, List.not_mem_nil,
      and_false, false_or]
    constructor
    · rintro ⟨_, ⟨ids, hids, rfl⟩, hi⟩
      obtain ⟨hi, hne⟩ := List.mem_filter.mp hi
      exact ⟨⟨ids, hids, hi⟩, of_decide_eq_true hne⟩
    · rintro ⟨⟨ids, hids, hi⟩, hne⟩
      exact ⟨_, ⟨ids, hids, rfl⟩, List.mem_filter.mpr ⟨hi, decide_eq_true hne⟩⟩
  | some p =>
    simp only [Option.elim_some, record, JsObject.get?_set, Option.isSome_some, true_imp_iff,
      imp_true_iff, and_true]
    by_cases hid : id = node.id
    · simp [hid]
    · simp [hid]

/-- The keys of the graph are the ids of the gateways that answered. -/
theorem hasOwn_graph_collected (l : List GatewayAddress) (k : String) :
    (collected network l).graph.hasOwn k ↔ ∃ node ∈ l, node.id = k ∧ Answers network node := by
  rw [collected, foldl_iff_exists (P := fun linkGraph : LinkGraph ↦ linkGraph.graph.hasOwn k)
    (fun linkGraph node ↦ hasOwn_graph_collect network linkGraph node k)]
  exact or_iff_right Bool.false_ne_true

/-- The entries are those of the gateways that answered. -/
theorem get?_data_collected {l : List GatewayAddress} (hl : (l.map GatewayAddress.id).Nodup)
    (k : String) (d : GatewayData) : (collected network l).data.get? k = some d ↔
      ∃ node ∈ l, node.id = k ∧ reported network node = some d := by
  induction l using List.reverseRecOn with
  | nil => simp [collected, emptyLinkGraph]
  | append_singleton l node ih =>
    rw [List.map_append, List.nodup_append] at hl
    obtain ⟨hl, _, hdisjoint⟩ := hl
    rw [collected_append, get?_data_collect]
    simp only [List.mem_append, List.mem_singleton, or_and_right, exists_or, exists_eq_left, ← ih hl]
    split
    · next hk =>
      have hnone : (collected network l).data.get? k ≠ some d := by
        rw [ne_eq, ih hl]
        rintro ⟨node', hmem, hid, _⟩
        exact hdisjoint _ (List.mem_map_of_mem hmem) _ List.mem_cons_self (hid.trans hk)
      subst hk
      simp [Option.or_eq_some_iff, hnone]
    · next hk => simp [Ne.symm hk]

/-- An edge stays unless a later gateway of its target's id failed. -/
theorem hasEdge_collected {l : List GatewayAddress} (hl : (l.map GatewayAddress.id).Nodup)
    (id i : String) : HasEdge (collected network l) id i ↔
      ∃ pre node post, l = pre ++ node :: post ∧ node.id = id ∧ ListsId network node i ∧
        ∀ later ∈ post, later.id = i → Answers network later := by
  induction l using List.reverseRecOn with
  | nil => simp [collected, emptyLinkGraph, HasEdge]
  | append_singleton l last ih =>
    rw [List.map_append, List.nodup_append] at hl
    obtain ⟨hl, _, hdisjoint⟩ := hl
    rw [collected_append, hasEdge_collect, ih hl]
    constructor
    · rintro (⟨hid, hlists⟩ | ⟨⟨pre, node, post, rfl, hid, hlists, hlater⟩, _, hlast⟩)
      · exact ⟨l, last, [], rfl, hid.symm, hlists, fun _ h ↦ absurd h List.not_mem_nil⟩
      · refine ⟨pre, node, post ++ [last], by rw [List.append_assoc, List.cons_append], hid, hlists,
          fun later hmem hi ↦ ?_⟩
        rcases List.mem_append.mp hmem with hmem | hmem
        · exact hlater later hmem hi
        · rw [List.mem_singleton.mp hmem] at hi ⊢
          exact hlast hi.symm
    · rintro ⟨pre, node, post, hsplit, hid, hlists, hlater⟩
      rcases List.eq_nil_or_concat' post with rfl | ⟨post, last', rfl⟩
      · obtain ⟨_, hnode⟩ := List.append_inj' hsplit rfl
        obtain rfl := (List.cons.inj hnode).1
        exact Or.inl ⟨hid.symm, hlists⟩
      · rw [← List.cons_append, ← List.append_assoc] at hsplit
        obtain ⟨rfl, hlast⟩ := List.append_inj' hsplit rfl
        obtain rfl := (List.cons.inj hlast).1
        refine Or.inr ⟨⟨pre, node, post, rfl, hid, hlists, fun later hmem ↦
          hlater later (List.mem_append_left _ hmem)⟩, fun _ heq ↦ ?_, fun hi ↦ ?_⟩
        · refine hdisjoint node.id (List.mem_map_of_mem ?_) last.id List.mem_cons_self
            (hid.trans heq)
          exact List.mem_append_right _ List.mem_cons_self
        · exact hlater last (List.mem_append_right _ List.mem_cons_self) hi.symm

end Collected

/-! ### Runs of the traversal -/

section Runs

variable {network : GatewayNetwork} {selfDetails : GatewayAddress}

/-- Neighbour records for the same id carry the same ip. -/
def GatewayNetwork.Consistent (network : GatewayNetwork) : Prop :=
  ∀ answer ∈ network.entries, ∀ answer' ∈ network.entries, ∀ n ∈ answer.2.neighbors,
    ∀ m ∈ answer'.2.neighbors, n.id = m.id → n.ip = m.ip

instance (network : GatewayNetwork) : Decidable network.Consistent :=
  inferInstanceAs (Decidable (∀ _ ∈ _, _))

/-- The gateways reached from the local one along answering gateways; records of the local
gateway itself lead nowhere else. -/
abbrev Reachable (network : GatewayNetwork) (selfDetails : GatewayAddress) :
    GatewayAddress → Prop :=
  Reached GatewayAddress.id (neighbors network) selfDetails

/-- What holds before every iteration. -/
structure Traversal.Valid (network : GatewayNetwork) (selfDetails : GatewayAddress)
    (s : Traversal) : Prop where
  explores : Explores GatewayAddress.id (neighbors network) selfDetails s.requested s.frontier
  linkGraph : s.linkGraph = collected network s.requested

private theorem visit_eq (node : GatewayAddress) (s : Traversal) :
    visit network node s =
      { frontier := (neighbors network node).foldl (Frontier.offer GatewayAddress.id) s.frontier
        linkGraph := collect network s.linkGraph node
        requested := s.requested ++ [node] } := by
  unfold visit neighbors collect
  cases getPartialLinkGraphData network node.ip <;> rfl

private theorem iteration_cases {s t : Traversal} (h : iteration network s = some t) :
    ∃ node frontier, s.frontier.dequeue = some (node, frontier) ∧
      t = { frontier := (neighbors network node).foldl (Frontier.offer GatewayAddress.id) frontier
            linkGraph := collect network s.linkGraph node
            requested := s.requested ++ [node] } := by
  obtain ⟨⟨node, frontier⟩, hdequeue, rfl⟩ := Option.map_eq_some_iff.mp h
  exact ⟨node, frontier, hdequeue, visit_eq node _⟩

/-- The traversal starts valid. -/
theorem valid_initial : (Traversal.initial selfDetails).Valid network selfDetails :=
  ⟨explores_start, rfl⟩

/-- An iteration keeps the traversal valid and makes one request. -/
theorem valid_iteration {s t : Traversal} (hs : s.Valid network selfDetails)
    (h : iteration network s = some t) :
    t.Valid network selfDetails ∧ t.requested.length = s.requested.length + 1 := by
  obtain ⟨node, frontier, hdequeue, rfl⟩ := iteration_cases h
  refine ⟨⟨hs.explores.step hdequeue, ?_⟩, ?_⟩
  · rw [collected_append, ← hs.linkGraph]
  · rw [List.length_append, List.length_singleton]

/-- All ids that can be discovered. -/
def listedIds (network : GatewayNetwork) (selfDetails : GatewayAddress) : List String :=
  selfDetails.id :: network.entries.flatMap fun entry ↦ entry.2.neighbors.map GatewayAddress.id

private theorem exists_entry_of_mem_neighbors {a b : GatewayAddress}
    (h : b ∈ neighbors network a) : ∃ answer ∈ network.entries, b ∈ answer.2.neighbors := by
  unfold neighbors at h
  cases hanswer : getPartialLinkGraphData network a.ip with
  | none =>
    rw [hanswer] at h
    cases h
  | some p =>
    rw [hanswer] at h
    exact ⟨(a.ip, p), (JsObject.get?_eq_some_iff _ _ _).mp hanswer, h⟩

private theorem mem_listedIds {a b : GatewayAddress} (h : b ∈ neighbors network a) :
    b.id ∈ listedIds network selfDetails := by
  obtain ⟨answer, hanswer, hb⟩ := exists_entry_of_mem_neighbors h
  apply List.mem_cons_of_mem
  rw [List.mem_flatMap]
  exact ⟨answer, hanswer, List.mem_map_of_mem hb⟩

private theorem length_le_listedIds {s : Traversal} (hs : s.Valid network selfDetails) :
    (s.requested ++ s.frontier.queue).length ≤ (listedIds network selfDetails).length :=
  hs.explores.length_le List.mem_cons_self fun _ _ h ↦ mem_listedIds h

/-- The traversal terminates: every iteration requests an id that was not requested. -/
theorem exists_returns (network : GatewayNetwork) (selfDetails : GatewayAddress) :
    ∃ s, Returns network selfDetails s := by
  apply exists_endsIn (I := Traversal.Valid network selfDetails)
    (fun s ↦ (listedIds network selfDetails).length - s.requested.length) _ _ valid_initial
  intro s t hs h
  obtain ⟨ht, hlength⟩ := valid_iteration hs h
  have hbound := length_le_listedIds ht
  rw [List.length_append] at hbound
  exact ⟨ht, by omega⟩

/-- Where the traversal ends, nothing is left in the queue. -/
theorem valid_of_returns {s : Traversal} (h : Returns network selfDetails s) :
    s.Valid network selfDetails ∧ s.frontier.queue = [] := by
  obtain ⟨hvalid, hend⟩ := EndsIn.rule (fun _ _ hs hb ↦ (valid_iteration hs hb).1) valid_initial h
  refine ⟨hvalid, ?_⟩
  rw [iteration, Option.map_eq_none_iff] at hend
  unfold Frontier.dequeue at hend
  split at hend
  · assumption
  · cases hend

private theorem nodup_requested {s : Traversal} (hs : s.Valid network selfDetails) :
    (s.requested.map GatewayAddress.id).Nodup := by
  have h := hs.explores.nodup
  rw [List.map_append, List.nodup_append] at h
  exact h.1

end Runs

/-! ### The link graph that is returned -/

section Returned

variable {network : GatewayNetwork} {selfDetails : GatewayAddress}

-- Reached gateways of one id have one address.
private theorem eq_of_id_eq (hnetwork : network.Consistent) {a b : GatewayAddress}
    (ha : Reachable network selfDetails a) (hb : Reachable network selfDetails b)
    (h : a.id = b.id) : a = b := by
  cases ha with
  | root =>
    cases hb with
    | root => rfl
    | next _ _ hne => exact absurd h.symm hne
  | next _ ha hne =>
    cases hb with
    | root => exact absurd h hne
    | next _ hb _ =>
      obtain ⟨answer, hanswer, ha⟩ := exists_entry_of_mem_neighbors ha
      obtain ⟨answer', hanswer', hb⟩ := exists_entry_of_mem_neighbors hb
      exact GatewayAddress.ext h (hnetwork _ hanswer _ hanswer' _ ha _ hb h)

private theorem hasOwn_data_collected {l : List GatewayAddress}
    (hl : (l.map GatewayAddress.id).Nodup) (k : String) :
    (collected network l).data.hasOwn k ↔ (collected network l).graph.hasOwn k := by
  rw [JsObject.hasOwn_iff, hasOwn_graph_collected]
  simp only [get?_data_collected network hl, answers_iff]
  constructor
  · rintro ⟨d, node, hmem, hid, hd⟩
    exact ⟨node, hmem, hid, d, hd⟩
  · rintro ⟨node, hmem, hid, d, hd⟩
    exact ⟨d, node, hmem, hid, hd⟩

/-- The traversal terminates with one result, requests no id twice, and returns exactly the
entries of the gateways that answer among those reached along answering gateways. -/
theorem getLinkGraphData_spec (hnetwork : network.Consistent) (selfDetails : GatewayAddress) :
    ∃ s, Returns network selfDetails s ∧ (∀ s', Returns network selfDetails s' → s' = s) ∧
      (s.requested.map GatewayAddress.id).Nodup ∧
      (∀ id, s.linkGraph.graph.hasOwn id ↔ s.linkGraph.data.hasOwn id) ∧
      ∀ id d, s.linkGraph.data.get? id = some d ↔ ∃ node, Reachable network selfDetails node ∧
        node.id = id ∧ reported network node = some d := by
  obtain ⟨s, hs⟩ := exists_returns network selfDetails
  obtain ⟨hvalid, hqueue⟩ := valid_of_returns hs
  have hnodup := nodup_requested hvalid
  refine ⟨s, hs, fun s' hs' ↦ EndsIn.unique hs' hs, hnodup, fun id ↦ ?_, fun id d ↦ ?_⟩
  · rw [hvalid.linkGraph, hasOwn_data_collected hnodup]
  · rw [hvalid.linkGraph, get?_data_collected network hnodup]
    constructor
    · rintro ⟨node, hmem, hid, hd⟩
      exact ⟨node, hvalid.explores.reached node (List.mem_append_left _ hmem), hid, hd⟩
    · rintro ⟨node, hreach, hid, hd⟩
      have hkey : node.id ∈ s.requested.map GatewayAddress.id :=
        hvalid.explores.complete hqueue
          (fun a b ha hb h ↦ by rw [eq_of_id_eq hnetwork ha hb h]) hreach
      obtain ⟨node', hmem, hid'⟩ := List.mem_map.mp hkey
      have hreach' : Reachable network selfDetails node' :=
        hvalid.explores.reached node' (List.mem_append_left _ hmem)
      obtain rfl := eq_of_id_eq hnetwork hreach' hreach hid'
      exact ⟨node', hmem, hid, hd⟩

/-- The entries of a link graph that is returned are those of the reached gateways that answer. -/
theorem get?_data_of_returns (hnetwork : network.Consistent) {s : Traversal}
    (h : Returns network selfDetails s) (id : String) (d : GatewayData) :
    s.linkGraph.data.get? id = some d ↔ ∃ node, Reachable network selfDetails node ∧
      node.id = id ∧ reported network node = some d := by
  obtain ⟨hvalid, hqueue⟩ := valid_of_returns h
  have hreached (node : GatewayAddress) (hmem : node ∈ s.requested) :
      Reachable network selfDetails node :=
    hvalid.explores.reached node (List.mem_append_left _ hmem)
  rw [hvalid.linkGraph, get?_data_collected network (nodup_requested hvalid)]
  constructor
  · rintro ⟨node, hmem, hid, hd⟩
    exact ⟨node, hreached node hmem, hid, hd⟩
  · rintro ⟨node, hreach, hid, hd⟩
    have hsame (a b : GatewayAddress) (ha : Reachable network selfDetails a)
        (hb : Reachable network selfDetails b) (h : a.id = b.id) :
        neighbors network a = neighbors network b := by
      rw [eq_of_id_eq hnetwork ha hb h]
    obtain ⟨node', hmem, hid'⟩ := List.mem_map.mp (hvalid.explores.complete hqueue hsame hreach)
    obtain rfl := eq_of_id_eq hnetwork (hreached node' hmem) hreach hid'
    exact ⟨node', hmem, hid, hd⟩

/-- The local gateway `A` lists `B` and `C`; `C` lists `B`, which fails. -/
def unreachableNeighbor : GatewayNetwork :=
  (JsObject.empty.set "10.0.0.1" ⟨[⟨"B", "10.0.0.2"⟩, ⟨"C", "10.0.0.3"⟩], [], []⟩).set "10.0.0.3"
    ⟨[⟨"B", "10.0.0.2"⟩], [], [⟨"1", "app1"⟩]⟩

/-- `C` is found behind the local gateway, with what it reported. -/
theorem getLinkGraphData_unreachableNeighbor :
    ∃ s, Returns unreachableNeighbor ⟨"A", "10.0.0.1"⟩ s ∧
      s.linkGraph.data.get? "C" = some ⟨"10.0.0.3", [], [⟨"1", "app1"⟩]⟩ := by
  have hconsistent : unreachableNeighbor.Consistent := by decide
  obtain ⟨s, hs, _, _, _, hdata⟩ := getLinkGraphData_spec hconsistent ⟨"A", "10.0.0.1"⟩
  refine ⟨s, hs, (hdata _ _).mpr ⟨⟨"C", "10.0.0.3"⟩, ?_, rfl, rfl⟩⟩
  exact Reached.next Reached.root (by decide) (by decide)

/-- Every listed id is a key of `graph` and of `data`. -/
def Closed (linkGraph : LinkGraph) : Prop :=
  ∀ id neighborId, HasEdge linkGraph id neighborId →
    linkGraph.graph.hasOwn neighborId ∧ linkGraph.data.hasOwn neighborId

private theorem pairwise_iff_split {R : GatewayAddress → GatewayAddress → Prop}
    (l : List GatewayAddress) :
    l.Pairwise R ↔ ∀ pre b post, l = pre ++ b :: post → ∀ a ∈ pre, R a b := by
  constructor
  · rintro h pre b post rfl a ha
    exact (List.pairwise_append.mp h).2.2 a ha b List.mem_cons_self
  · intro h
    induction l using List.reverseRecOn with
    | nil => exact List.Pairwise.nil
    | append_singleton l last ih =>
      rw [List.pairwise_append]
      refine ⟨ih fun pre b post hl ↦ ?_, List.pairwise_singleton R last, fun a ha b hb ↦ ?_⟩
      · apply h pre b (post ++ [last])
        rw [hl, List.append_assoc, List.cons_append]
      · rw [List.mem_singleton.mp hb]
        exact h l last [] rfl a ha

-- The same for the gateways in the order they were requested.
private theorem closed_iff_requested {s : Traversal} (hs : s.Valid network selfDetails)
    (hqueue : s.frontier.queue = []) :
    Closed s.linkGraph ↔ s.requested.Pairwise fun earlier later ↦
      ListsId network later earlier.id → Answers network earlier := by
  have hnodup := nodup_requested hs
  rw [hs.linkGraph, pairwise_iff_split]
  constructor
  · intro hclosed pre later post hsplit earlier hmem hlists
    have hedge : HasEdge (collected network s.requested) later.id earlier.id := by
      refine (hasEdge_collected network hnodup _ _).mpr ⟨pre, later, post, hsplit, rfl, hlists,
        fun last hlast hid ↦ ?_⟩
      rw [hsplit, List.map_append, List.nodup_append] at hnodup
      exact absurd hid.symm (hnodup.2.2 _ (List.mem_map_of_mem hmem) _
        (List.mem_map_of_mem (List.mem_cons_of_mem later hlast)))
    obtain ⟨node, hnode, hid, hanswers⟩ :=
      (hasOwn_graph_collected network _ _).mp (hclosed _ _ hedge).1
    have hearlier : earlier ∈ s.requested := by
      rw [hsplit]
      exact List.mem_append_left _ hmem
    rw [← List.inj_on_of_nodup_map hnodup hnode hearlier hid]
    exact hanswers
  · intro hpairs id i hedge
    rw [hasOwn_data_collected hnodup, and_self, hasOwn_graph_collected]
    obtain ⟨pre, node, post, hsplit, _, hlists, hlater⟩ :=
      (hasEdge_collected network hnodup _ _).mp hedge
    have hnode : node ∈ s.requested := by
      rw [hsplit]
      exact List.mem_append_right _ List.mem_cons_self
    obtain ⟨neighbor, hneighbor, hi⟩ := List.mem_map.mp hlists
    have hkey : i ∈ s.requested.map GatewayAddress.id :=
      hi ▸ hs.explores.closed hqueue hnode hneighbor
    obtain ⟨target, htarget, hid⟩ := List.mem_map.mp hkey
    refine ⟨target, htarget, hid, ?_⟩
    rw [hsplit] at htarget
    rcases List.mem_append.mp htarget with hpre | hpost
    · exact hpairs pre node post hsplit target hpre (hid ▸ hlists)
    · rcases List.mem_cons.mp hpost with rfl | hpost
      · exact Answers.of_listsId hlists
      · exact hlater target hpost hid

/-- The returned link graph is closed exactly if, in the breadth-first order of the
gateways, none that fails comes before an answering one that lists it. -/
theorem linkGraph_closed_iff {s : Traversal} (h : Returns network selfDetails s) :
    Closed s.linkGraph ↔ ∀ k, (breadthFirst GatewayAddress.id (neighbors network) selfDetails
      k).Pairwise fun earlier later ↦ ListsId network later earlier.id → Answers network earlier := by
  obtain ⟨hvalid, hqueue⟩ := valid_of_returns h
  rw [closed_iff_requested hvalid hqueue]
  constructor
  · intro hpairs k
    exact hpairs.sublist (hvalid.explores.rounds_prefix hqueue k).sublist
  · intro hrounds
    obtain ⟨k, hk⟩ := hvalid.explores.exists_round hqueue
    rw [hk]
    exact hrounds k

end Returned

/-- `B` is removed from the list of `A` before `C` adds it to its own. -/
theorem linkGraph_not_closed :
    ¬ ∀ network selfDetails s, Returns network selfDetails s → Closed s.linkGraph := by
  intro h
  obtain ⟨s, hs⟩ : ∃ s, getLinkGraphData unreachableNeighbor ⟨"A", "10.0.0.1"⟩ 4 = some s :=
    Option.isSome_iff_exists.mp (by decide)
  have hgraph : (getLinkGraphData unreachableNeighbor ⟨"A", "10.0.0.1"⟩ 4).map
      (fun s ↦ (s.linkGraph.graph.get? "C", s.linkGraph.graph.hasOwn "B")) =
        some (some ["B"], false) := by decide
  simp only [hs, Option.map_some, Option.some.injEq, Prod.mk.injEq] at hgraph
  have hclosed := h _ _ s ⟨4, hs⟩ "C" "B" ⟨["B"], hgraph.1, List.mem_cons_self⟩
  rw [hgraph.2] at hclosed
  exact absurd hclosed.1 Bool.false_ne_true

/-- The local gateway `A` and `C` list each other. -/
def mutualNeighbors : GatewayNetwork :=
  (JsObject.empty.set "10.0.0.1" ⟨[⟨"C", "10.0.0.3"⟩], [], []⟩).set "10.0.0.3"
    ⟨[⟨"A", "10.0.0.1"⟩], [], []⟩

/-- With both gateways answering, the link graph is closed. -/
theorem linkGraph_closed_mutualNeighbors :
    ∃ s, Returns mutualNeighbors ⟨"A", "10.0.0.1"⟩ s ∧ Closed s.linkGraph := by
  obtain ⟨s, hs⟩ := exists_returns mutualNeighbors ⟨"A", "10.0.0.1"⟩
  have hrounds : ∀ k,
      breadthFirst GatewayAddress.id (neighbors mutualNeighbors) ⟨"A", "10.0.0.1"⟩ k =
        [⟨"A", "10.0.0.1"⟩] ∨
      breadthFirst GatewayAddress.id (neighbors mutualNeighbors) ⟨"A", "10.0.0.1"⟩ k =
        [⟨"A", "10.0.0.1"⟩, ⟨"C", "10.0.0.3"⟩] := by
    intro k
    induction k with
    | zero => exact Or.inl rfl
    | succ k ih =>
      apply Or.inr
      rcases ih with h | h
      · rw [breadthFirst, h]
        decide
      · rw [breadthFirst, h]
        decide
  refine ⟨s, hs, (linkGraph_closed_iff hs).mpr fun k ↦ ?_⟩
  rcases hrounds k with h | h
  · rw [h]
    decide
  · rw [h]
    decide

end NexusEdge.Api
