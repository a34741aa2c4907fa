import WormholeMap.Cli.Job
import WormholeMap.Proofs.Client.Exchanges
import WormholeMap.Proofs.View.Coherence

/-!
Exit codes against the exchanges that were made. A command that changes a map plans its mutations
before it makes the first, from its words and the map that it has loaded (`Command.plan?`). So a
refusal comes without any mutation, success means that the whole plan was carried out, and a failure
that an initial part of it was (`exit_code`).

Lines that ask for help are left out (`asksHelp`): they are answered by the parser of command lines,
before any command is run.
-/

namespace WormholeMap.Cli

namespace Command

/-- Whether the command is one that changes its map. -/
def mutates : Command → Bool
  | lock .. | move .. | reverse .. | mass .. | lifetime .. | delete .. => true
  | watch .. | events .. | snapshot .. => false

def map : Command → MapId
  | watch map | events map _ | snapshot map | lock map _ | move map _ _ | reverse map _
  | mass map _ _ | lifetime map _ _ | delete map _ _ => map

/-- Whether the command, one that changes its map, works on what is there. -/
def needsMap : Command → Bool
  | lock .. | move .. | delete .. => true
  | _ => false

/-- The mutations of a command on the map that has been loaded for it, if it makes sense there. -/
def plan? (detail : Option MapDetail) : Command → Option (List Mutation)
  | lock _ node => do
    let n ← (← detail).nodes.find? (·.id = node)
    return [.setLock n.id (!n.locked)]
  | move _ node p => do
    let n ← (← detail).nodes.find? (·.id = node)
    if n.locked then none else some [.moveNode n.id p]
  | reverse _ link => some [.reverseLink link]
  | mass _ link status => do return [.setMass link (← massOfName? status)]
  | lifetime _ link status => do return [.setLifetime link (← lifetimeOfName? status)]
  | delete _ nodes links => do
    let detail ← detail
    let nodes ← nodes.mapM fun id => detail.nodes.find? (·.id = id)
    let links ← links.mapM fun id => detail.links.find? (·.id = id)
    let plan ← planDeletion nodes links
    return plan.nodes.map .deleteNode ++ plan.links.map .deleteLink
  | watch .. | events .. | snapshot .. => none

theorem plan?_none {command : Command} (h : command.needsMap = true) :
    command.plan? none = none := by
  cases command <;> first | rfl | cases h

end Command

/-- Whether one of the words asks for help: no value that an option waits for, none behind two
hyphens, and no command is called so but that which gives help. -/
def asksHelpIn : Bool → Bool → List String → Bool
  | _, _, [] => false
  | true, named, _ :: rest => asksHelpIn false named rest
  | false, named, word :: rest =>
    if word = "--" then false
    else
      match longOption? word with
      | some (name, value) =>
        (name = "help" && value.isNone) || asksHelpIn value.isNone named rest
      | none =>
        "-h".toList.isPrefixOf word.toList || (!named && word = "help") || asksHelpIn false true rest

/-- Whether a command line asks for help. -/
def asksHelp (args : List String) : Bool := asksHelpIn false false args

/-- The exchanges that ask the backend for a change. -/
def changesIn (made : List Exchange) : List Exchange :=
  made.filter (·.message.request.method ≠ .get)

/-- The map that exchanges have loaded. -/
def loaded (made : List Exchange) : Option MapDetail := made.findSome? Exchange.loaded?

theorem changesIn_append (made more : List Exchange) :
    changesIn (made ++ more) = changesIn made ++ changesIn more :=
  List.filter_append made more

theorem changesIn_of_carried {map : MapId} {plan : List Mutation} {made : List Exchange} {ok : Bool}
    (h : Carried map plan made ok) : changesIn made = made := by
  refine List.filter_eq_self.mpr fun e he => ?_
  obtain ⟨m, hm⟩ := h.isMutation he
  rw [hm]
  cases m <;> rfl

/-! ### Verdicts -/

/-- What the exit code of a command that has begun says of the exchanges it has made. -/
structure Verdict (command : Command) (made : List Exchange) (code : Nat) : Prop where
  codes : code = 0 ∨ code = failedCode ∨ code = usageCode
  sent : (changesIn made).map (·.message.request) <+:
    ((command.plan? (loaded made)).getD []).map (.mutate command.map)
  kept : ∀ e ∈ (changesIn made).dropLast, e.Succeeds
  completed : code = 0 → ∃ plan, command.plan? (loaded made) = some plan ∧
    (changesIn made).map (·.message.request) = plan.map (.mutate command.map) ∧
    ∀ e ∈ made, e.Succeeds
  failed : code = failedCode → ∃ e ∈ made, ¬e.Succeeds
  refused : code = usageCode ↔
    (∀ e ∈ made, e.Succeeds) ∧ command.plan? (loaded made) = none
  loads : command.needsMap = true →
    ∃ load rest, made = load :: rest ∧ load.message.request = .loadMap command.map
  begun : ∀ plan, command.plan? (loaded made) = some plan → plan ≠ [] → changesIn made ≠ []
  last : ∀ e ∈ made, ¬e.Succeeds → made.getLast? = some e ∧ code = failedCode

/-- What a progress says of the exchanges made so far: it is over, with an exit code that fits. -/
def Concludes (command : Command) (made : List Exchange) (progress : Progress) : Prop :=
  ∃ code, progress.1 = .done code ∧ Verdict command made code

/-- Exchanges by which a command loads its map, if it needs it, and succeeds. -/
structure Loading (command : Command) (made : List Exchange) : Prop where
  loads : ∀ e ∈ made, ∃ map, e.message.request = .loadMap map
  succeed : ∀ e ∈ made, e.Succeeds
  needed : command.needsMap = true →
    ∃ load, made = [load] ∧ load.message.request = .loadMap command.map

theorem Loading.nil {command : Command} (h : command.needsMap = false) : Loading command [] where
  loads _ he := absurd he List.not_mem_nil
  succeed _ he := absurd he List.not_mem_nil
  needed hneeds := by
    rw [h] at hneeds
    cases hneeds

theorem changesIn_of_load {made : List Exchange}
    (h : ∀ e ∈ made, ∃ map, e.message.request = .loadMap map) : changesIn made = [] := by
  refine List.filter_eq_nil_iff.mpr fun e he => ?_
  obtain ⟨map, hrequest⟩ := h e he
  rw [hrequest]
  simp [Request.method]

theorem Loading.changesIn_eq {command : Command} {made : List Exchange} (h : Loading command made) :
    changesIn made = [] :=
  changesIn_of_load h.loads

section

variable {command : Command} {loads made : List Exchange} {plan : List Mutation} {ok : Bool}
  {result : Except ActionError α}

theorem Verdict.of_carried (hloads : Loading command loads)
    (hplan : command.plan? (loaded (loads ++ made)) = some plan)
    (h : Carried command.map plan made ok) :
    Verdict command (loads ++ made) (if ok then 0 else failedCode) := by
  have hchanges : changesIn (loads ++ made) = made := by
    rw [changesIn_append, hloads.changesIn_eq, changesIn_of_carried h, List.nil_append]
  refine ⟨?_, ?_, ?_, ?_, ?_, ?_, ?_, ?_, ?_⟩
  · cases ok <;> simp
  · rw [hchanges, hplan]
    exact h.requests
  · rw [hchanges]
    exact h.kept
  · intro hcode
    cases ok with
    | false => cases hcode
    | true =>
      obtain ⟨hrequests, hall⟩ := h.completed rfl
      rw [hchanges]
      exact ⟨plan, hplan, hrequests, List.forall_mem_append.mpr ⟨hloads.succeed, hall⟩⟩
  · intro hcode
    cases ok with
    | true => cases hcode
    | false =>
      obtain ⟨e, he, hfails⟩ := h.failed rfl
      exact ⟨e, List.mem_append_right loads he, hfails⟩
  · rw [hplan]
    cases ok <;> simp [usageCode, failedCode]
  · intro hneeds
    obtain ⟨load, rfl, hrequest⟩ := hloads.needed hneeds
    exact ⟨load, made, rfl, hrequest⟩
  · intro plan' hplan' hne
    rw [hplan] at hplan'
    cases hplan'
    rw [hchanges]
    exact h.ne_nil hne
  · intro e he hfails
    rcases List.mem_append.mp he with he | he
    · exact absurd (hloads.succeed e he) hfails
    · obtain ⟨hlast, rfl⟩ := h.last_of_not_succeeds he hfails
      rw [List.getLast?_append, hlast]
      exact ⟨rfl, rfl⟩

theorem Verdict.refusal (hloads : Loading command loads) (hplan : command.plan? (loaded loads) = none) :
    Verdict command loads usageCode where
  codes := .inr (.inr rfl)
  sent := by
    rw [hloads.changesIn_eq]
    exact List.nil_prefix
  kept e he := by
    rw [hloads.changesIn_eq] at he
    exact absurd he List.not_mem_nil
  completed h := by cases h
  failed h := by cases h
  refused := iff_of_true rfl ⟨hloads.succeed, hplan⟩
  loads hneeds := by
    obtain ⟨load, rfl, hrequest⟩ := hloads.needed hneeds
    exact ⟨load, [], rfl, hrequest⟩
  begun plan hsome _ := by
    rw [hplan] at hsome
    cases hsome
  last e he hfails := absurd (hloads.succeed e he) hfails

theorem Verdict.unloaded {e : Exchange} (hneeds : command.needsMap = true)
    (hrequest : e.message.request = .loadMap command.map) (hload : e.loaded? = none) :
    Verdict command [e] failedCode := by
  have hfails : ¬e.Succeeds := by
    rw [Exchange.succeeds_load hrequest, hload]
    exact Bool.false_ne_true
  have hplan : command.plan? (loaded [e]) = none := by
    rw [loaded, List.findSome?_singleton, hload, Command.plan?_none hneeds]
  have hchanges : changesIn [e] = [] := changesIn_of_load fun e' he' => by
    obtain rfl := List.mem_singleton.mp he'
    exact ⟨_, hrequest⟩
  refine ⟨.inr (.inl rfl), ?_, ?_, ?_, ?_, ?_, fun _ => ⟨e, [], rfl, hrequest⟩, ?_, ?_⟩
  · rw [hchanges]
    exact List.nil_prefix
  · rw [hchanges]
    exact fun e he => absurd he List.not_mem_nil
  · intro hcode
    cases hcode
  · exact fun _ => ⟨e, List.mem_singleton_self e, hfails⟩
  · refine iff_of_false (by decide) ?_
    rintro ⟨hall, -⟩
    exact hfails (hall e (List.mem_singleton_self e))
  · intro plan hsome
    rw [hplan] at hsome
    cases hsome
  · intro e' he' _
    rw [List.mem_singleton.mp he']
    exact ⟨rfl, rfl⟩

/-- A command whose plan is carried out, and that says so whenever that succeeds. -/
theorem Concludes.of_carried {text : α → Progress} (hloads : Loading command loads)
    (hplan : command.plan? (loaded (loads ++ made)) = some plan)
    (h : Carried command.map plan made result.isOk)
    (htext : ∀ a, result = .ok a → (text a).1 = .done 0) :
    Concludes command (loads ++ made) (finish text result) := by
  refine ⟨if result.isOk then 0 else failedCode, ?_, .of_carried hloads hplan h⟩
  cases result with
  | ok a => exact htext a rfl
  | error e => rfl

theorem Concludes.refusal (text : String) (hloads : Loading command loads)
    (hplan : command.plan? (loaded loads) = none) :
    Concludes command loads (fail usageCode text) :=
  ⟨usageCode, rfl, .refusal hloads hplan⟩

end

/-! ### Commands -/

section

variable {σ : Type} (c : Client) (map : MapId)

/-- A command that works on a map makes one exchange before, which loads the map or fails. -/
theorem makes_withMap_cases {work : MapDetail → Run σ Progress}
    {Q : List Exchange → Progress → Prop}
    (hwork : ∀ detail load, load.message.request = .loadMap map → load.loaded? = some detail →
      Run.Makes (work detail) fun made progress => Q ([load] ++ made) progress)
    (hfails : ∀ load text, load.message.request = .loadMap map → load.loaded? = none →
      Q [load] (fail failedCode text)) : Run.Makes (withMap c map work) Q := by
  refine (c.makes_loadMap map).bind ?_
  rintro made result ⟨load, rfl, hrequest, hloaded⟩
  cases result with
  | ok detail => exact hwork detail load hrequest hloaded
  | error error => exact .pure (hfails load _ hrequest hloaded)

theorem Loading.of_loaded {command : Command} {load : Exchange} {detail : MapDetail}
    (hrequest : load.message.request = .loadMap command.map) (hload : load.loaded? = some detail) :
    Loading command [load] where
  loads e he := by
    obtain rfl := List.mem_singleton.mp he
    exact ⟨_, hrequest⟩
  succeed e he := by
    obtain rfl := List.mem_singleton.mp he
    rw [Exchange.succeeds_load hrequest, hload]
    rfl
  needed _ := ⟨load, rfl, hrequest⟩

theorem makes_withMap (command : Command) {work : MapDetail → Run σ Progress}
    (hneeds : command.needsMap = true)
    (hwork : ∀ detail load, load.loaded? = some detail → Loading command [load] →
      Run.Makes (work detail) fun made progress => Concludes command ([load] ++ made) progress) :
    Run.Makes (withMap c command.map work) (Concludes command) :=
  makes_withMap_cases c command.map
    (fun detail load hrequest hload => hwork detail load hload (.of_loaded hrequest hload))
    fun _ _ hrequest hload => ⟨failedCode, rfl, .unloaded hneeds hrequest hload⟩

theorem loaded_cons {load : Exchange} {detail : MapDetail} (h : load.loaded? = some detail)
    (made : List Exchange) : loaded ([load] ++ made) = some detail := by
  rw [loaded, List.singleton_append, List.findSome?_cons, h]

theorem toOption_findNode (detail : MapDetail) (id : NodeId) :
    (findNode map detail id).toOption = detail.nodes.find? (·.id = id) := by
  unfold findNode
  cases detail.nodes.find? (·.id = id) <;> rfl

theorem toOption_findLink (detail : MapDetail) (id : LinkId) :
    (findLink map detail id).toOption = detail.links.find? (·.id = id) := by
  unfold findLink
  cases detail.links.find? (·.id = id) <;> rfl

theorem makes_lock (node : NodeId) :
    Run.Makes (lock c map node : Run σ Progress) (Concludes (.lock map node)) := by
  refine makes_withMap c (.lock map node) rfl fun detail load hload hloading => ?_
  have hplan (made : List Exchange) : (Command.lock map node).plan? (loaded ([load] ++ made)) =
      (findNode map detail node).toOption.bind fun n => some [.setLock n.id (!n.locked)] := by
    rw [loaded_cons hload, toOption_findNode]
    rfl
  cases hfind : findNode map detail node with
  | error text =>
    rw [hfind] at hplan
    exact .pure (.refusal text hloading (hplan []))
  | ok n =>
    rw [hfind] at hplan
    refine (c.makes_toggleLock map n).bind_pure fun made result hmutate => ?_
    exact .of_carried hloading (hplan made) hmutate fun _ _ => rfl

theorem makes_move (node : NodeId) (p : Position) :
    Run.Makes (move c map node p : Run σ Progress) (Concludes (.move map node p)) := by
  refine makes_withMap c (.move map node p) rfl fun detail load hload hloading => ?_
  have hplan (made : List Exchange) : (Command.move map node p).plan? (loaded ([load] ++ made)) =
      (findNode map detail node).toOption.bind fun n =>
        if n.locked then none else some [.moveNode n.id p] := by
    rw [loaded_cons hload, toOption_findNode]
    rfl
  cases hfind : findNode map detail node with
  | error text =>
    rw [hfind] at hplan
    exact .pure (.refusal text hloading (hplan []))
  | ok n =>
    rw [hfind] at hplan
    have hmoves (made : List Exchange) :
        (Command.move map node p).plan? (loaded ([load] ++ made)) =
          if n.locked then none else some [.moveNode n.id p] := hplan made
    refine (c.makes_moveSelection map [(n, p)]).bind_pure fun made result hmoved => ?_
    obtain ⟨hcarried, hcount⟩ := hmoved
    cases hlocked : n.locked with
    | true =>
      simp only [List.filter_cons, hlocked, Bool.not_true, Bool.false_eq_true, if_false,
        List.filter_nil, List.map_nil, List.length_nil] at hcarried hcount
      obtain rfl : made = [] := List.map_eq_nil_iff.mp (List.prefix_nil.mp hcarried.requests)
      cases result with
      | error e => exact absurd (hcarried.failed rfl) (by simp)
      | ok count =>
        obtain rfl := hcount count rfl
        exact .refusal _ hloading ((hmoves []).trans (if_pos hlocked))
    | false =>
      simp only [List.filter_cons, hlocked, Bool.not_false, if_true, List.filter_nil,
        List.map_cons, List.map_nil, List.length_singleton] at hcarried hcount
      refine .of_carried hloading ((hmoves made).trans (if_neg (by simp [hlocked]))) hcarried ?_
      intro count hok
      obtain rfl := hcount count hok
      rfl

theorem makes_change {command : Command} {m : Mutation} (done : String)
    (hmap : command.map = map) (hneeds : command.needsMap = false)
    (hplan : ∀ detail, command.plan? detail = some [m]) :
    Run.Makes (change c map m done : Run σ Progress) (Concludes command) := by
  subst hmap
  refine (c.makes_change command.map m).bind_pure fun made result h => ?_
  rw [← List.nil_append made]
  exact .of_carried (.nil hneeds) (hplan _) h fun _ _ => rfl

theorem makes_setMass (link : LinkId) (status : String) :
    Run.Makes (setMass c map link status : Run σ Progress) (Concludes (.mass map link status)) := by
  unfold setMass
  cases hname : massOfName? status with
  | none => exact .pure (.refusal _ (.nil rfl) (by simp [Command.plan?, hname]))
  | some mass => exact makes_change c map _ rfl rfl fun detail => by simp [Command.plan?, hname]

theorem makes_setLifetime (link : LinkId) (status : String) :
    Run.Makes (setLifetime c map link status : Run σ Progress)
      (Concludes (.lifetime map link status)) := by
  unfold setLifetime
  cases hname : lifetimeOfName? status with
  | none => exact .pure (.refusal _ (.nil rfl) (by simp [Command.plan?, hname]))
  | some lifetime =>
    exact makes_change c map _ rfl rfl fun detail => by simp [Command.plan?, hname]

/-- What is found for all of a list, or not, is so with errors left out. -/
theorem toOption_mapM {f : α → Except String β} {g : α → Option β}
    (h : ∀ a, (f a).toOption = g a) (l : List α) : (l.mapM f).toOption = l.mapM g := by
  induction l with
  | nil => rfl
  | cons a l ih =>
    rw [List.mapM_cons, List.mapM_cons, ← h a, ← ih]
    cases f a with
    | error e => rfl
    | ok b => cases l.mapM f <;> rfl

/-- A deletion is refused on the map that it has loaded, or it carries out the plan for what it has
found there. -/
theorem makes_delete_cases {nodes : List NodeId} {links : List LinkId}
    {Q : List Exchange → Progress → Prop}
    (hfails : ∀ load text, load.message.request = .loadMap map → load.loaded? = none →
      Q [load] (fail failedCode text))
    (hrefused : ∀ detail load text, load.message.request = .loadMap map →
      load.loaded? = some detail → (Command.delete map nodes links).plan? (some detail) = none →
      Q [load] (fail usageCode text))
    (hplanned : ∀ detail load foundNodes foundLinks plan made result,
      load.message.request = .loadMap map → load.loaded? = some detail →
      nodes.mapM (fun id => detail.nodes.find? (·.id = id)) = some foundNodes →
      links.mapM (fun id => detail.links.find? (·.id = id)) = some foundLinks →
      planDeletion foundNodes foundLinks = some plan →
      Carried map (plan.nodes.map .deleteNode ++ plan.links.map .deleteLink) made result.isOk →
      (∀ outcome, result = .ok outcome → outcome = .completed plan) →
      Q ([load] ++ made) (finish deletionProgress result)) :
    Run.Makes (delete c map nodes links : Run σ Progress) Q := by
  refine makes_withMap_cases c map (fun detail load hrequest hload => ?_) hfails
  have hplan : (Command.delete map nodes links).plan? (some detail) =
      (nodes.mapM fun id => detail.nodes.find? (·.id = id)).bind fun foundNodes =>
        (links.mapM fun id => detail.links.find? (·.id = id)).bind fun foundLinks =>
          (planDeletion foundNodes foundLinks).bind fun plan =>
            some (plan.nodes.map .deleteNode ++ plan.links.map .deleteLink) := rfl
  have hnodes := toOption_mapM (toOption_findNode map detail) nodes
  have hlinks := toOption_mapM (toOption_findLink map detail) links
  cases hfoundNodes : nodes.mapM (findNode map detail) with
  | error text =>
    rw [hfoundNodes] at hnodes
    rw [← hnodes] at hplan
    exact .pure (hrefused detail load text hrequest hload hplan)
  | ok foundNodes =>
    rw [hfoundNodes] at hnodes
    cases hfoundLinks : links.mapM (findLink map detail) with
    | error text =>
      rw [hfoundLinks] at hlinks
      rw [← hnodes, ← hlinks] at hplan
      exact .pure (hrefused detail load text hrequest hload hplan)
    | ok foundLinks =>
      rw [hfoundLinks] at hlinks
      refine (c.makes_deleteSelection map foundNodes foundLinks).bind_pure
        fun made result hdeleted => ?_
      cases hdeletion : planDeletion foundNodes foundLinks with
      | none =>
        rw [hdeletion] at hdeleted
        obtain ⟨rfl, locked, rfl⟩ := hdeleted
        refine hrefused detail load _ hrequest hload (hplan.trans ?_)
        rw [← hnodes, ← hlinks]
        show (planDeletion foundNodes foundLinks).bind _ = none
        rw [hdeletion]
        rfl
      | some plan =>
        rw [hdeletion] at hdeleted
        exact hplanned detail load foundNodes foundLinks plan made result hrequest hload
          hnodes.symm hlinks.symm hdeletion hdeleted.1 hdeleted.2

theorem makes_delete (nodes : List NodeId) (links : List LinkId) :
    Run.Makes (delete c map nodes links : Run σ Progress)
      (Concludes (.delete map nodes links)) := by
  refine makes_delete_cases c map
    (fun _ _ hrequest hload => ⟨failedCode, rfl, .unloaded rfl hrequest hload⟩)
    (fun detail load text hrequest hload hplan => ?_)
    fun detail load foundNodes foundLinks plan made result hrequest hload hnodes hlinks hplan
      hcarried hcompleted => ?_
  · refine .refusal text (.of_loaded hrequest hload) ?_
    rw [loaded, List.findSome?_singleton, hload]
    exact hplan
  · refine .of_carried (.of_loaded hrequest hload) ?_ hcarried fun outcome hok => ?_
    · rw [loaded_cons hload]
      simp [Command.plan?, hnodes, hlinks, hplan]
    · obtain rfl := hcompleted outcome hok
      rfl

theorem makes_begin {command : Command} (h : command.mutates = true) :
    Run.Makes (Job.begin c command : Run σ Progress) (Concludes command) := by
  cases command with
  | lock map node => exact makes_lock c map node
  | move map node p => exact makes_move c map node p
  | reverse map link => exact makes_change c map _ rfl rfl fun _ => rfl
  | mass map link status => exact makes_setMass c map link status
  | lifetime map link status => exact makes_setLifetime c map link status
  | delete map nodes links => exact makes_delete c map nodes links
  | watch | events | snapshot => cases h

end

/-! ### Command lines -/

/-- What the exit code of a command line says of the exchanges it has made. -/
structure Exits (args : List String) (env : String → Option String) (made : List Exchange)
    (code : Nat) : Prop where
  codes : code = 0 ∨ code = failedCode ∨ code = usageCode ∨ code = configCode
  refused : code = usageCode ∨ code = configCode → changesIn made = []
  completed : code = 0 → ∃ options command plan, parse? args = some (options, command) ∧
    command.plan? (loaded made) = some plan ∧
    (changesIn made).map (·.message.request) = plan.map (.mutate command.map) ∧
    ∀ e ∈ made, e.Succeeds
  failed : code = failedCode →
    (∃ e ∈ made, ¬e.Succeeds) ∧ (∀ e ∈ (changesIn made).dropLast, e.Succeeds) ∧
      ∃ options command, parse? args = some (options, command) ∧
        (changesIn made).map (·.message.request) <+:
          ((command.plan? (loaded made)).getD []).map (.mutate command.map)
  usage : code = usageCode ↔ parse? args = none ∨
    ∃ options command config, parse? args = some (options, command) ∧
      Config.ofVariables (options.lookup env) = .ok config ∧
      (∀ e ∈ made, e.Succeeds) ∧ command.plan? (loaded made) = none
  misconfigured : code = configCode ↔ ∃ options command error,
    parse? args = some (options, command) ∧
      Config.ofVariables (options.lookup env) = .error error
  deletes : ∀ options map nodes links, parse? args = some (options, .delete map nodes links) →
    changesIn made ≠ [] → ∃ detail, loaded made = some detail ∧
      (∀ id ∈ nodes, ∃ n ∈ detail.nodes, n.id = id) ∧
      ∀ id ∈ links, ∃ l ∈ detail.links, l.id = id
  begun : ∀ options command config, parse? args = some (options, command) →
    Config.ofVariables (options.lookup env) = .ok config →
      (command.needsMap = true →
        ∃ load rest, made = load :: rest ∧ load.message.request = .loadMap command.map) ∧
      ∀ plan, command.plan? (loaded made) = some plan → plan ≠ [] → changesIn made ≠ []
  last : ∀ e ∈ made, ¬e.Succeeds → made.getLast? = some e ∧ code = failedCode
  waits : ∀ e ∈ made, e.Hangs → made.getLast? = some e

theorem exists_of_mapM_eq_some {f : α → Option β} {l : List α} {found : List β}
    (h : l.mapM f = some found) : ∀ a ∈ l, ∃ b, f a = some b := by
  induction l generalizing found with
  | nil => exact fun a ha => absurd ha List.not_mem_nil
  | cons a l ih =>
    rw [List.mapM_cons] at h
    obtain ⟨b, hb, h⟩ := Option.bind_eq_some_iff.mp h
    obtain ⟨rest, hrest, -⟩ := Option.bind_eq_some_iff.mp h
    exact List.forall_mem_cons.mpr ⟨⟨b, hb⟩, ih hrest⟩

/-- A deletion is planned on a map that has all of what is to be deleted. -/
theorem plan?_delete {map : MapId} {nodes : List NodeId} {links : List LinkId}
    {detail : Option MapDetail} {plan : List Mutation}
    (h : (Command.delete map nodes links).plan? detail = some plan) :
    ∃ d, detail = some d ∧ (∀ id ∈ nodes, ∃ n ∈ d.nodes, n.id = id) ∧
      ∀ id ∈ links, ∃ l ∈ d.links, l.id = id := by
  obtain ⟨d, hd, h⟩ := Option.bind_eq_some_iff.mp h
  obtain ⟨foundNodes, hnodes, h⟩ := Option.bind_eq_some_iff.mp h
  obtain ⟨foundLinks, hlinks, -⟩ := Option.bind_eq_some_iff.mp h
  refine ⟨d, hd, fun id hid => ?_, fun id hid => ?_⟩
  · obtain ⟨n, hn⟩ := exists_of_mapM_eq_some hnodes id hid
    exact ⟨n, List.mem_of_find?_eq_some hn, by simpa using List.find?_some hn⟩
  · obtain ⟨l, hl⟩ := exists_of_mapM_eq_some hlinks id hid
    exact ⟨l, List.mem_of_find?_eq_some hl, by simpa using List.find?_some hl⟩

section

variable {args : List String} {env : String → Option String} {made : List Exchange} {code : Nat}
  {options : Options} {command : Command}

/-- Without a plan there are no changes. -/
theorem Verdict.changesIn_eq_nil (h : Verdict command made code)
    (hplan : command.plan? (loaded made) = none) : changesIn made = [] := by
  have hsent := h.sent
  rw [hplan] at hsent
  exact List.map_eq_nil_iff.mp (List.prefix_nil.mp hsent)

theorem Exits.malformed (hargs : parse? args = none) : Exits args env [] usageCode where
  codes := .inr (.inr (.inl rfl))
  refused _ := rfl
  completed h := by cases h
  failed h := by cases h
  usage := iff_of_true rfl (.inl hargs)
  misconfigured := iff_of_false (by decide) (by simp [hargs])
  deletes := by simp [hargs]
  begun := by simp [hargs]
  last _ he := absurd he List.not_mem_nil
  waits _ he := absurd he List.not_mem_nil

theorem Exits.misconfiguration {error : ConfigError} (hargs : parse? args = some (options, command))
    (hconfig : Config.ofVariables (options.lookup env) = .error error) :
    Exits args env [] configCode where
  codes := .inr (.inr (.inr rfl))
  refused _ := rfl
  completed h := by cases h
  failed h := by cases h
  usage := iff_of_false (by decide) (by simp [hargs, hconfig])
  misconfigured := iff_of_true rfl ⟨options, command, error, hargs, hconfig⟩
  deletes _ _ _ _ _ h := absurd rfl h
  begun options' command' config hargs' hok := by
    rw [hargs] at hargs'
    cases hargs'
    rw [hconfig] at hok
    cases hok
  last _ he := absurd he List.not_mem_nil
  waits _ he := absurd he List.not_mem_nil

theorem Exits.of_verdict {config : Config} (hargs : parse? args = some (options, command))
    (hconfig : Config.ofVariables (options.lookup env) = .ok config)
    (h : Verdict command made code) : Exits args env made code where
  codes := by
    rcases h.codes with hcode | hcode | hcode
    · exact .inl hcode
    · exact .inr (.inl hcode)
    · exact .inr (.inr (.inl hcode))
  refused hrefused := by
    have husage : code = usageCode := by
      rcases hrefused with hcode | hcode
      · exact hcode
      · have hcodes := h.codes
        simp only [failedCode, usageCode, configCode] at hcodes hcode
        omega
    exact h.changesIn_eq_nil (h.refused.mp husage).2
  completed hcode := by
    obtain ⟨plan, hplan, hrequests, hall⟩ := h.completed hcode
    exact ⟨options, command, plan, hargs, hplan, hrequests, hall⟩
  failed hcode := ⟨h.failed hcode, h.kept, options, command, hargs, h.sent⟩
  usage := by
    rw [h.refused]
    constructor
    · rintro ⟨hall, hplan⟩
      exact .inr ⟨options, command, config, hargs, hconfig, hall, hplan⟩
    · rintro (hnone | ⟨options', command', config', hargs', -, hall, hplan⟩)
      · rw [hargs] at hnone
        cases hnone
      · rw [hargs] at hargs'
        cases hargs'
        exact ⟨hall, hplan⟩
  misconfigured := by
    have hcode : code ≠ configCode := by
      have hcodes := h.codes
      simp only [failedCode, usageCode, configCode] at hcodes ⊢
      omega
    refine iff_of_false hcode ?_
    rintro ⟨options', command', error, hargs', herror⟩
    rw [hargs] at hargs'
    cases hargs'
    rw [hconfig] at herror
    cases herror
  deletes options' map nodes links hargs' hchanges := by
    rw [hargs] at hargs'
    cases hargs'
    cases hplan : (Command.delete map nodes links).plan? (loaded made) with
    | none => exact absurd (h.changesIn_eq_nil hplan) hchanges
    | some plan => exact plan?_delete hplan
  begun options' command' config' hargs' _ := by
    rw [hargs] at hargs'
    cases hargs'
    exact ⟨h.loads, h.begun⟩
  last := h.last
  waits e he hhangs := (h.last e he hhangs.not_succeeds).1

end

/-- A command line of a command that changes a map, and asks for no help, is done at once, and its
exit code tells which mutations have been sent. A refusal comes before the first of them. Success
means that all that was planned were sent and succeeded, and failure that an initial part was, of
which only the last may have failed. A map that is needed is loaded first, and what is planned on it
is begun.

An exchange that fails is the last one, and so is one that hangs: there the program waits instead of
being done, with the same exchanges behind it. -/
theorem exit_code (args : List String) (env : String → Option String)
    (h : ∀ options command, parse? args = some (options, command) → command.mutates = true)
    (_ : asksHelp args = false) (ctx : Context σ) :
    let run := (Job.start args env).run ctx
    ∃ code made, run.1.1 = .done code ∧ run.2.wire.exchanges = ctx.wire.exchanges ++ made ∧
      Exits args env made code := by
  intro run
  cases hargs : parse? args with
  | none =>
    have hrun : run = ((.done usageCode, [.err "usage: linked [OPTIONS] COMMAND MAP ..."]), ctx) := by
      simp only [run, Job.start, hargs]
      rfl
    rw [hrun]
    exact ⟨usageCode, [], rfl, (List.append_nil _).symm, .malformed hargs⟩
  | some words =>
    obtain ⟨options, command⟩ := words
    cases hconfig : Config.ofVariables (options.lookup env) with
    | error error =>
      have hrun : run = (fail configCode error.message, ctx) := by
        simp only [run, Job.start, hargs, hconfig]
        rfl
      rw [hrun]
      exact ⟨configCode, [], rfl, (List.append_nil _).symm, .misconfiguration hargs hconfig⟩
    | ok config =>
      have hrun : run = (Job.begin config.client command).run ctx := by
        simp only [run, Job.start, hargs, hconfig]
      obtain ⟨made, hmade, code, hcode, hverdict⟩ :=
        makes_begin config.client (h options command hargs) ctx
      rw [hrun]
      exact ⟨code, made, hcode, hmade, .of_verdict hargs hconfig hverdict⟩

/-- A backend with a map whose only node can be deleted once. -/
def deletingOnce : Backend Nat where
  reply s _ message :=
    match message.request with
    | .loadMap _ => (.response ⟨200, [Utf8.encode View.editableMap], .closed⟩, s)
    | _ => (.response ⟨if s = 0 then 204 else 404, [], .closed⟩, s + 1)

/-- The node is named twice: it is deleted, and the second deletion fails. -/
theorem exit_code_deletingTwice :
    let node := "00000000000000000000000000000001"
    let args := ["delete", "00000000000000000000000000000000", "--node", node, "--node", node]
    let run := (Job.start args fun _ => none).run ⟨.start deletingOnce 0, .empty⟩
    run.2.wire.exchanges.length = 3 ∧ run.1.1 matches .done 1 ∧
      (∀ options command, parse? args = some (options, command) → command.mutates = true) ∧
      asksHelp args = false ∧ ∃ code made, run.1.1 = .done code ∧ run.2.wire.exchanges = [] ++ made ∧
        Exits args (fun _ => none) made code := by
  intro node args run
  have hrun : run.2.wire.exchanges.length = 3 ∧ (run.1.1 matches .done 1) ∧
      (parse? args).all (·.2.mutates) = true ∧ asksHelp args = false := by
    decide +kernel
  obtain ⟨hlength, hcode, hmutates, hhelp⟩ := hrun
  have hcommand (options : Options) (command : Command)
      (hargs : parse? args = some (options, command)) : command.mutates = true := by
    rw [hargs] at hmutates
    exact hmutates
  exact ⟨hlength, hcode, hcommand, hhelp, exit_code args _ hcommand hhelp _⟩

end WormholeMap.Cli
