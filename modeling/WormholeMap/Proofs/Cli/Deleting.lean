import WormholeMap.Proofs.Cli.ExitCode
import WormholeMap.Proofs.Graph.Removal

/-!
Deleting what a command line names. An id that is named again counts as one more entity: it is
deleted again, unless the deletion stops before, and the report counts it again. So each entity is
deleted once, and counted once, exactly if no id comes again among those that are reached
(`deletes_each_once_iff`).
-/

namespace WormholeMap

/-- The node or link that a request asks to delete. -/
def Request.deletes? : Request → Option (NodeId ⊕ LinkId)
  | mutate _ (.deleteNode id) => some (.inl id)
  | mutate _ (.deleteLink id) => some (.inr id)
  | _ => none

namespace DeletionPlan

/-- What a plan asks to delete, in order. -/
def entities (p : DeletionPlan) : List (NodeId ⊕ LinkId) := p.nodes.map .inl ++ p.links.map .inr

/-- The part of a plan that a number of requests come to. -/
def reached (p : DeletionPlan) (count : Nat) : DeletionPlan :=
  { p with nodes := p.nodes.take count, links := p.links.take (count - p.nodes.length) }

/-- A plan with each entity once. -/
def distinct (p : DeletionPlan) : DeletionPlan :=
  ⟨p.nodes.dedup, p.links.dedup, p.skippedLocked.dedup⟩

end DeletionPlan

namespace MapDetail

variable (detail : MapDetail)

/-- Whether the node with an id is locked. -/
def locks (id : NodeId) : Bool := (detail.nodes.find? (·.id = id)).any (·.locked)

/-- Whether there is a node with an id that is not locked. -/
def frees (id : NodeId) : Bool := (detail.nodes.find? (·.id = id)).any (!·.locked)

/-- What ids of nodes and links name, in their order: the unlocked nodes, the links that are at none
of these, and the locked nodes, which are not deleted. -/
def named (nodes : List NodeId) (links : List LinkId) : DeletionPlan where
  nodes := nodes.filter detail.frees
  links := links.filter fun id => (detail.links.find? (·.id = id)).any fun l =>
    (nodes.filter detail.frees).all fun n => !l.touches n
  skippedLocked := nodes.filter detail.locks

end MapDetail

/-! ### Plans for what is named -/

section

/-- Of what is found for keys, that which is kept has the keys for which it is. -/
theorem map_key_filter_mapM {κ : Type} {find : κ → Option α} {key : α → κ}
    (hkey : ∀ k a, find k = some a → key a = k) (p : α → Bool) {keys : List κ} {found : List α}
    (h : keys.mapM find = some found) :
    (found.filter p).map key = keys.filter fun k => (find k).any p := by
  induction keys generalizing found with
  | nil =>
    cases h
    rfl
  | cons k keys ih =>
    rw [List.mapM_cons] at h
    obtain ⟨a, ha, h⟩ := Option.bind_eq_some_iff.mp h
    obtain ⟨rest, hrest, h⟩ := Option.bind_eq_some_iff.mp h
    cases h
    rw [List.filter_cons, List.filter_cons, ha, Option.any_some, ← ih hrest]
    split
    · rw [List.map_cons, hkey k a ha]
    · rfl

variable {detail : MapDetail} {nodes : List NodeId} {links : List LinkId}
  {foundNodes : List Node} {foundLinks : List Link} {plan : DeletionPlan}

/-- The plan for what is found under ids is that for what they name. -/
theorem planDeletion_eq_named
    (hnodes : nodes.mapM (fun id => detail.nodes.find? (·.id = id)) = some foundNodes)
    (hlinks : links.mapM (fun id => detail.links.find? (·.id = id)) = some foundLinks)
    (hplan : planDeletion foundNodes foundLinks = some plan) : plan = detail.named nodes links := by
  have hnode (p : Node → Bool) : (foundNodes.filter p).map (·.id) =
      nodes.filter fun id => (detail.nodes.find? (·.id = id)).any p :=
    map_key_filter_mapM (fun k a ha => by simpa using List.find?_some ha) p hnodes
  have hlink (p : Link → Bool) : (foundLinks.filter p).map (·.id) =
      links.filter fun id => (detail.links.find? (·.id = id)).any p :=
    map_key_filter_mapM (fun k a ha => by simpa using List.find?_some ha) p hlinks
  have hfree : (foundNodes.filter (!·.locked)).map (·.id) = nodes.filter detail.frees := hnode _
  have houtlasts (l : Link) : decide (l.Outlasts foundNodes) =
      (nodes.filter detail.frees).all fun n => !l.touches n := by
    rw [Bool.eq_iff_iff, decide_eq_true_iff, ← touches_none_iff, hfree, List.all_eq_true]
    simp only [Bool.not_eq_true']
  rw [planDeletion_eq] at hplan
  split at hplan
  · cases hplan
  · cases hplan
    simp only [MapDetail.named, hfree, hlink, houtlasts]
    rw [hnode]
    rfl

end

namespace DeletionPlan

variable (p : DeletionPlan)

/-- The changes that a plan asks for delete its entities. -/
theorem filterMap_mutations (map : MapId) :
    ((p.nodes.map Mutation.deleteNode ++ p.links.map Mutation.deleteLink).map
      (.mutate map)).filterMap Request.deletes? = p.entities := by
  have hnode : Request.deletes? ∘ .mutate map ∘ Mutation.deleteNode = some ∘ Sum.inl := rfl
  have hlink : Request.deletes? ∘ .mutate map ∘ Mutation.deleteLink = some ∘ Sum.inr := rfl
  rw [List.map_append, List.filterMap_append, List.map_map, List.map_map, List.filterMap_map,
    List.filterMap_map, hnode, hlink, List.filterMap_eq_map, List.filterMap_eq_map, entities]

theorem entities_reached (count : Nat) : (p.reached count).entities = p.entities.take count := by
  simp [entities, reached, List.take_append, List.map_take]

theorem nodup_entities : p.entities.Nodup ↔ p.nodes.Nodup ∧ p.links.Nodup := by
  rw [entities, List.nodup_append]
  rw [List.nodup_map_iff Sum.inl_injective, List.nodup_map_iff Sum.inr_injective]
  simp

end DeletionPlan

namespace Cli

/-- What exchanges have asked the backend to delete, in order. -/
def deleted (made : List Exchange) : List (NodeId ⊕ LinkId) :=
  made.filterMap (·.message.request.deletes?)

/-- No entity has been deleted twice, and a report of success counts each entity once. -/
structure EachOnce (plan : DeletionPlan) (made : List Exchange) (progress : Progress) : Prop where
  deleted : (deleted made).Nodup
  reported : progress.1 = .done 0 → progress = deletionProgress (.completed plan.distinct)

/-- What has been deleted, and what is said about it, when ids are to be deleted from the map that
is loaded: what they name there, unless that makes no sense or a request fails, which is the last
then. -/
structure Deletes (nodes : List NodeId) (links : List LinkId) (made : List Exchange)
    (progress : Progress) : Prop where
  unloaded : loaded made = none → deleted made = [] ∧ progress.1 ≠ .done 0
  sent : ∀ detail, loaded made = some detail →
    deleted made <+: (detail.named nodes links).entities
  kept : ∀ e ∈ made.dropLast, e.Succeeds
  stopped : ∀ detail, loaded made = some detail → progress.1 ≠ .done usageCode →
    deleted made ≠ (detail.named nodes links).entities → ∃ e ∈ made, ¬e.Succeeds
  completed : ∀ detail, loaded made = some detail → progress.1 = .done 0 →
    deleted made = (detail.named nodes links).entities ∧
      progress = deletionProgress (.completed (detail.named nodes links))

/-! ### Reports -/

section

variable {a b : Nat} {x y : List Char}

theorem digits_append_inj (h : Nat.toDigits 10 a ++ ' ' :: x = Nat.toDigits 10 b ++ ' ' :: y) :
    a = b ∧ x = y := by
  have hdigits (n : Nat) (rest : List Char) :
      (Nat.toDigits 10 n ++ ' ' :: rest).takeWhile Char.isDigit = Nat.toDigits 10 n := by
    rw [List.takeWhile_append_of_pos fun c hc => Nat.isDigit_of_mem_toDigits (by decide)
      (by decide) hc, List.takeWhile_cons_of_neg (by decide), List.append_nil]
  have hsame : Nat.toDigits 10 a = Nat.toDigits 10 b := by rw [← hdigits a x, h, hdigits]
  have hab : a = b := by
    rw [← Nat.ofDigitChars_ten_toDigits (n := a), hsame, Nat.ofDigitChars_ten_toDigits]
  rw [hsame] at h
  exact ⟨hab, (List.cons.inj (List.append_cancel_left h)).2⟩

theorem toList_report (nodes links locked : Nat) :
    (s!"deleted {nodes} systems and {links} connections "
      ++ s!"({locked} locked systems kept)").toList =
    "deleted ".toList ++ (Nat.toDigits 10 nodes ++ ' ' :: ("systems and ".toList ++
      (Nat.toDigits 10 links ++ ' ' :: ("connections (".toList ++
        (Nat.toDigits 10 locked ++ ' ' :: "locked systems kept)".toList))))) := by
  simp [toString]

/-- Reports tell how many entities there were of each sort. -/
theorem deletionProgress_inj {p q : DeletionPlan} :
    deletionProgress (.completed p) = deletionProgress (.completed q) ↔
      p.nodes.length = q.nodes.length ∧ p.links.length = q.links.length ∧
        p.skippedLocked.length = q.skippedLocked.length := by
  constructor
  · intro h
    simp only [deletionProgress, succeed, Prod.mk.injEq, List.cons.injEq, Line.out.injEq,
      true_and, and_true] at h
    have hchars := congrArg String.toList h
    rw [toList_report, toList_report] at hchars
    obtain ⟨hnodes, hrest⟩ := digits_append_inj (List.append_cancel_left hchars)
    obtain ⟨hlinks, hrest⟩ := digits_append_inj (List.append_cancel_left hrest)
    obtain ⟨hlocked, -⟩ := digits_append_inj (List.append_cancel_left hrest)
    exact ⟨hnodes, hlinks, hlocked⟩
  · rintro ⟨hnodes, hlinks, hlocked⟩
    simp only [deletionProgress, hnodes, hlinks, hlocked]

theorem length_dedup_eq_iff {α : Type} [DecidableEq α] {l : List α} :
    l.length = l.dedup.length ↔ l.Nodup := by
  rw [eq_comm, ← List.dedup_eq_self]
  exact ⟨(List.dedup_sublist l).eq_of_length, congrArg List.length⟩

/-- A report counts each entity once if no entity is there twice. -/
theorem deletionProgress_distinct {p : DeletionPlan} :
    deletionProgress (.completed p) = deletionProgress (.completed p.distinct) ↔
      p.nodes.Nodup ∧ p.links.Nodup ∧ p.skippedLocked.Nodup := by
  rw [deletionProgress_inj]
  simp only [DeletionPlan.distinct, length_dedup_eq_iff]

end

/-! ### Deletions -/

section

variable {σ : Type} {map : MapId} {nodes : List NodeId} {links : List LinkId}
  {made : List Exchange} {progress : Progress} {plan : DeletionPlan} {load : Exchange}

theorem deleted_eq (made : List Exchange) :
    deleted made = (made.map (·.message.request)).filterMap Request.deletes? := by
  rw [List.filterMap_map]
  rfl

theorem deleted_cons_load (hrequest : load.message.request = .loadMap map)
    (made : List Exchange) : deleted ([load] ++ made) = deleted made := by
  rw [deleted, List.singleton_append, List.filterMap_cons, hrequest]
  rfl

/-- Exchanges that carry out a plan delete its first entities, and all of them if it succeeds. -/
theorem deleted_of_carried {ok : Bool}
    (h : Carried map (plan.nodes.map .deleteNode ++ plan.links.map .deleteLink) made ok) :
    deleted made <+: plan.entities ∧ (ok = true → deleted made = plan.entities) := by
  rw [deleted_eq, ← plan.filterMap_mutations map]
  refine ⟨h.requests.filterMap _, fun hok => ?_⟩
  rw [(h.completed hok).1]

/-- What has been deleted is known from how much it is. -/
theorem Deletes.deleted_eq_reached {detail : MapDetail} (h : Deletes nodes links made progress)
    (hloaded : loaded made = some detail) :
    deleted made = ((detail.named nodes links).reached (deleted made).length).entities := by
  rw [DeletionPlan.entities_reached]
  exact List.prefix_iff_eq_take.mp (h.sent detail hloaded)

theorem Deletes.eachOnce_iff {detail : MapDetail} (h : Deletes nodes links made progress)
    (hloaded : loaded made = some detail) :
    let plan := detail.named nodes links
    let reached := plan.reached (deleted made).length
    EachOnce plan made progress ↔ reached.nodes.Nodup ∧ reached.links.Nodup ∧
      (progress.1 = .done 0 → plan.skippedLocked.Nodup) := by
  intro plan reached
  have hdeleted : (deleted made).Nodup ↔ reached.nodes.Nodup ∧ reached.links.Nodup := by
    rw [h.deleted_eq_reached hloaded]
    exact reached.nodup_entities
  have hreported (hdone : progress.1 = .done 0) :
      progress = deletionProgress (.completed plan.distinct) ↔
        (deleted made).Nodup ∧ plan.skippedLocked.Nodup := by
    obtain ⟨hall, hprogress⟩ := h.completed detail hloaded hdone
    rw [hprogress, deletionProgress_distinct, hall, DeletionPlan.nodup_entities, and_assoc]
  rw [← and_assoc, ← hdeleted]
  constructor
  · rintro ⟨honce, hright⟩
    exact ⟨honce, fun hdone => ((hreported hdone).mp (hright hdone)).2⟩
  · rintro ⟨honce, hkept⟩
    exact ⟨honce, fun hdone => (hreported hdone).mpr ⟨honce, hkept hdone⟩⟩

/-- Ids that are all different name no entity twice. -/
theorem Deletes.eachOnce_of_nodup {detail : MapDetail} (h : Deletes nodes links made progress)
    (hloaded : loaded made = some detail) (hnodes : nodes.Nodup) (hlinks : links.Nodup) :
    EachOnce (detail.named nodes links) made progress :=
  (h.eachOnce_iff hloaded).mpr ⟨(hnodes.filter _).take, (hlinks.filter _).take,
    fun _ => hnodes.filter _⟩

/-! ### Runs -/

theorem Deletes.of_unloaded {code : Nat} (text : String) (hcode : code ≠ 0)
    (hloaded : loaded made = none) (hnone : deleted made = []) (hkept : made.dropLast = []) :
    Deletes nodes links made (fail code text) where
  unloaded _ := ⟨hnone, fun h => hcode (Job.done.inj h)⟩
  sent detail h := by
    rw [hloaded] at h
    cases h
  kept e he := by
    rw [hkept] at he
    exact absurd he List.not_mem_nil
  stopped detail h := by
    rw [hloaded] at h
    cases h
  completed detail h := by
    rw [hloaded] at h
    cases h

theorem Deletes.refused (text : String) (hrequest : load.message.request = .loadMap map) :
    Deletes nodes links [load] (fail usageCode text) where
  unloaded _ := ⟨deleted_cons_load hrequest [], by simp [fail, usageCode]⟩
  sent detail _ := by
    rw [show deleted [load] = [] from deleted_cons_load hrequest []]
    exact List.nil_prefix
  kept e he := absurd he List.not_mem_nil
  stopped detail _ h := absurd rfl h
  completed detail _ h := by simp [fail, usageCode] at h

theorem Deletes.of_carried {detail : MapDetail} {result : Except ActionError DeletionOutcome}
    (hrequest : load.message.request = .loadMap map) (hload : load.loaded? = some detail)
    (hcarried : Carried map ((detail.named nodes links).nodes.map .deleteNode ++
      (detail.named nodes links).links.map .deleteLink) made result.isOk)
    (hcompleted : ∀ outcome, result = .ok outcome →
      outcome = .completed (detail.named nodes links)) :
    Deletes nodes links ([load] ++ made) (finish deletionProgress result) := by
  have hloaded : loaded ([load] ++ made) = some detail := loaded_cons hload made
  obtain ⟨hsent, hall⟩ := deleted_of_carried hcarried
  rw [← deleted_cons_load hrequest] at hsent hall
  refine ⟨fun h => ?_, fun detail' h => ?_, fun e he => ?_, fun detail' h _ hleft => ?_,
    fun detail' h hdone => ?_⟩
  · rw [hloaded] at h
    cases h
  · rw [hloaded] at h
    cases h
    exact hsent
  · cases made with
    | nil => exact absurd he List.not_mem_nil
    | cons first rest =>
      rcases List.mem_cons.mp he with rfl | he
      · rw [Exchange.succeeds_load hrequest, hload]
        rfl
      · exact hcarried.kept e he
  · rw [hloaded] at h
    cases h
    cases hok : result.isOk with
    | true => exact absurd (hall hok) hleft
    | false =>
      obtain ⟨e, he, hfails⟩ := hcarried.failed hok
      exact ⟨e, List.mem_append_right [load] he, hfails⟩
  · rw [hloaded] at h
    cases h
    cases result with
    | error e => cases hdone
    | ok outcome =>
      obtain rfl := hcompleted outcome rfl
      exact ⟨hall rfl, rfl⟩

theorem makes_deletes (c : Client) (map : MapId) (nodes : List NodeId) (links : List LinkId) :
    Run.Makes (delete c map nodes links : Run σ Progress) (Deletes nodes links) := by
  refine makes_delete_cases c map (fun load text hrequest hload => ?_)
    (fun detail load text hrequest _ _ => .refused text hrequest)
    fun detail load foundNodes foundLinks plan made result hrequest hload hnodes hlinks hplan
      hcarried hcompleted => ?_
  · have hloaded : loaded [load] = none := by rw [loaded, List.findSome?_singleton, hload]
    exact .of_unloaded text (by decide) hloaded (deleted_cons_load hrequest []) rfl
  · obtain rfl := planDeletion_eq_named hnodes hlinks hplan
    exact .of_carried hrequest hload hcarried hcompleted

end

/-- Deleting what a command line names, from the map that is loaded for it, asks for the unlocked
nodes in the order in which they are named, and then for the links that do not go with them, up to
the first request that fails. No entity is deleted twice and none is counted twice, exactly if no id
comes again among those reached, and none among the locked nodes when the report counts them. So it
is when no id is named twice. -/
theorem deletes_each_once_iff {args : List String} {options : Options} {map : MapId}
    {nodes : List NodeId} {links : List LinkId}
    (hargs : parse? args = some (options, .delete map nodes links))
    (env : String → Option String) (ctx : Context σ) :
    let run := (Job.start args env).run ctx
    ∃ made, run.2.wire.exchanges = ctx.wire.exchanges ++ made ∧ Deletes nodes links made run.1 ∧
      ∀ detail, loaded made = some detail →
        let plan := detail.named nodes links
        let reached := plan.reached (deleted made).length
        deleted made = reached.entities ∧
          (EachOnce plan made run.1 ↔ reached.nodes.Nodup ∧ reached.links.Nodup ∧
            (run.1.1 = .done 0 → plan.skippedLocked.Nodup)) ∧
          (nodes.Nodup → links.Nodup → EachOnce plan made run.1) := by
  intro run
  have hmakes : Run.Makes (Job.start args env : Run σ Progress) (Deletes nodes links) := by
    simp only [Job.start, hargs]
    cases Config.ofVariables (options.lookup env) with
    | error e => exact .pure (.of_unloaded _ (by decide) rfl rfl rfl)
    | ok config => exact makes_deletes config.client map nodes links
  obtain ⟨made, hmade, hdeletes⟩ := hmakes ctx
  refine ⟨made, hmade, hdeletes, fun detail hloaded => ?_⟩
  exact ⟨hdeletes.deleted_eq_reached hloaded, hdeletes.eachOnce_iff hloaded,
    hdeletes.eachOnce_of_nodup hloaded⟩

/-- A backend with a map of one node, which accepts every deletion. -/
def accepting : Backend Unit where
  reply s _ message :=
    match message.request with
    | .loadMap _ => (.response ⟨200, [Utf8.encode View.editableMap], .closed⟩, s)
    | _ => (.response ⟨204, [], .closed⟩, s)

/-- The only node is named once, deleted once, and counted as one system. -/
theorem deletes_each_once_iff_single :
    let uuid (k : Fin 16) : Uuid := ⟨List.replicate 31 0 ++ [k], rfl⟩
    let args := ["delete", "00000000000000000000000000000000", "--node",
      "00000000000000000000000000000001"]
    let run := (Job.start args fun _ => none).run ⟨.start accepting (), .empty⟩
    let made := run.2.wire.exchanges
    parse? args = some (⟨none, none, none⟩, .delete ⟨uuid 0⟩ [⟨uuid 1⟩] []) ∧
      deleted made = [.inl ⟨uuid 1⟩] ∧
      run.1.2 = [.out "deleted 1 systems and 0 connections (0 locked systems kept)"] ∧
      ∃ detail, loaded made = some detail ∧
        EachOnce (detail.named [⟨uuid 1⟩] []) made run.1 := by
  intro uuid args run made
  have hargs : parse? args = some (⟨none, none, none⟩, .delete ⟨uuid 0⟩ [⟨uuid 1⟩] []) := rfl
  have hrun : (loaded made).isSome = true ∧ deleted made = [.inl ⟨uuid 1⟩] ∧
      run.1.2 = [.out "deleted 1 systems and 0 connections (0 locked systems kept)"] := by
    decide +kernel
  obtain ⟨hloaded, hdeleted, hprinted⟩ := hrun
  obtain ⟨detail, hdetail⟩ := Option.isSome_iff_exists.mp hloaded
  obtain ⟨made', hmade, -, hall⟩ :=
    deletes_each_once_iff hargs (fun _ => none) ⟨.start accepting (), .empty⟩
  obtain rfl : made = made' := hmade
  obtain ⟨-, -, honce⟩ := hall detail hdetail
  exact ⟨hargs, hdeleted, hprinted, detail, hdetail,
    honce (List.nodup_singleton _) List.nodup_nil⟩

/-- The only node is named twice. It is deleted twice, and counted as two systems. -/
theorem deleted_twice :
    let uuid (k : Fin 16) : Uuid := ⟨List.replicate 31 0 ++ [k], rfl⟩
    let node := "00000000000000000000000000000001"
    let args := ["delete", "00000000000000000000000000000000", "--node", node, "--node", node]
    let run := (Job.start args fun _ => none).run ⟨.start accepting (), .empty⟩
    let made := run.2.wire.exchanges
    (loaded made).map (·.nodes.map (·.id)) = some [⟨uuid 1⟩] ∧
      deleted made = [.inl ⟨uuid 1⟩, .inl ⟨uuid 1⟩] ∧ ¬(deleted made).Nodup ∧
      (run.1.1 matches .done 0) ∧
      run.1.2 = [.out "deleted 2 systems and 0 connections (0 locked systems kept)"] := by
  intro uuid node args run made
  decide +kernel

end Cli

end WormholeMap
