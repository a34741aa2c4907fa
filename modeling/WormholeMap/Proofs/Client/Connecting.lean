import WormholeMap.Proofs.Client.Batches

/-!
Creating a node with a link to it. The link is asked for once there is a node to link to, and only
then. A node whose link fails stays and is handed back with the error; of a failure, whichever
request it is of, the user is told once (`Client.createConnectedNode_connects`).
-/

namespace WormholeMap

/-- A node to create, and the link that is to lead to it. -/
structure Attachment where
  source : NodeId
  system : Int64
  position : Position
  wormhole : Option Int64

def Attachment.createNode (k : Attachment) : Action Node := .createNode k.system k.position

def Attachment.createLink (k : Attachment) (node : Node) : Action Link :=
  .createLink k.source node.id k.wormhole

/-- A reply of success brings what the action is to give. -/
def Action.SucceedsOn (a : Action α) (reply : Reply) (given : α) : Prop :=
  ∃ r, reply = .response r ∧ r.Accepts ∧ a.Gives r given

namespace Exchange

/-- What the body of the request has under a key. -/
def sent? (key : String) (e : Exchange) : Option Json :=
  e.message.request.body? >>= Json.get? key

/-- The client posts the node. -/
structure PostsNode (c : Client) (map : MapId) (k : Attachment) (e : Exchange) : Prop where
  message : e.message = c.message (k.createNode.request map)
  method : e.message.request.method = .post
  path : e.message.request.path = s!"/maps/{map}" ++ "/nodes"
  system : e.sent? "system_id" = some (.int k.system)
  x : e.sent? "pos_x" = some (.float k.position.x)
  y : e.sent? "pos_y" = some (.float k.position.y)

/-- The client posts a link to a node, with the type of the wormhole exactly if there is one. -/
structure PostsLink (c : Client) (map : MapId) (k : Attachment) (node : Node) (e : Exchange) :
    Prop where
  message : e.message = c.message ((k.createLink node).request map)
  method : e.message.request.method = .post
  path : e.message.request.path = s!"/maps/{map}" ++ "/links"
  source : e.sent? "source_node_id" = some k.source.toJson
  target : e.sent? "target_node_id" = some node.id.toJson
  wormhole : e.sent? "wormhole_id" = k.wormhole.map .int

variable {c : Client} {map : MapId} {k : Attachment} {node : Node} {e : Exchange}

theorem postsNode (h : e.message = c.message (k.createNode.request map)) :
    e.PostsNode c map k := by
  obtain ⟨time, message, reply⟩ := e
  subst h
  exact ⟨rfl, rfl, rfl, rfl, rfl, rfl⟩

theorem postsLink (h : e.message = c.message ((k.createLink node).request map)) :
    e.PostsLink c map k node := by
  obtain ⟨time, message, reply⟩ := e
  subst h
  refine ⟨rfl, rfl, rfl, rfl, rfl, ?_⟩
  show Json.get? "wormhole_id" (.object (("source_node_id", k.source.toJson) ::
    ("target_node_id", node.id.toJson) ::
      (k.wormhole.map fun w => ("wormhole_id", Json.int w)).toList)) = k.wormhole.map Json.int
  cases k.wormhole <;> rfl

end Exchange

namespace Client

/-- What comes of creating a node with a link to it: the exchanges made, the toasts shown and the
result. -/
inductive Connects (c : Client) (map : MapId) (k : Attachment) :
    List Exchange → List Toast → Except ConnectError (Node × Link) → Prop
  | nodeFailed {e : Exchange} {error : ActionError} (hnode : e.PostsNode c map k)
      (hfails : k.createNode.Fails e.reply error) :
      Connects c map k [e] [.error "Error" error.message] (.error (.nodeFailed error))
  | linkFailed {e e' : Exchange} {node : Node} {error : ActionError} (hnode : e.PostsNode c map k)
      (hcreated : k.createNode.SucceedsOn e.reply node) (hlink : e'.PostsLink c map k node)
      (hfails : (k.createLink node).Fails e'.reply error) :
      Connects c map k [e, e'] [.error "Error" error.message] (.error (.linkFailed node error))
  | connected {e e' : Exchange} {node : Node} {link : Link} (hnode : e.PostsNode c map k)
      (hcreated : k.createNode.SucceedsOn e.reply node) (hlink : e'.PostsLink c map k node)
      (hlinked : (k.createLink node).SucceedsOn e'.reply link) :
      Connects c map k [e, e'] [] (.ok (node, link))

variable {c : Client} {map : MapId} {k : Attachment} {made : List Exchange} {toasts : List Toast}
  {result : Except ConnectError (Node × Link)}

/-- Nothing is ever taken back. -/
theorem Connects.method_eq (h : Connects c map k made toasts result) {e : Exchange}
    (he : e ∈ made) : e.message.request.method = .post := by
  cases h with
  | nodeFailed hnode =>
    rw [List.mem_singleton.mp he]
    exact hnode.method
  | linkFailed hnode _ hlink =>
    rcases List.mem_pair.mp he with rfl | rfl
    · exact hnode.method
    · exact hlink.method
  | connected hnode _ hlink =>
    rcases List.mem_pair.mp he with rfl | rfl
    · exact hnode.method
    · exact hlink.method

section

variable {ctx ctx' ctx'' : Context σ} {node : Node}

theorem run_nodeFailed {error : ActionError}
    (h : (k.createNode.run c map).run ctx = (.error error, ctx')) :
    (c.createConnectedNode map k.source k.system k.position k.wormhole).run ctx =
      (.error (.nodeFailed error), ctx') := by
  change (c.createNode map k.system k.position).run ctx = _ at h
  rw [createConnectedNode, StateT.run_bind, h]
  rfl

/-- Once there is a node, all depends on the link. -/
theorem run_created {linked : Except ActionError Link}
    (h : (k.createNode.run c map).run ctx = (.ok node, ctx'))
    (h' : ((k.createLink node).run c map).run ctx' = (linked, ctx'')) :
    (c.createConnectedNode map k.source k.system k.position k.wormhole).run ctx =
      ((linked.map (node, ·)).mapError (.linkFailed node), ctx'') := by
  change (c.createNode map k.system k.position).run ctx = _ at h
  change (c.createLink map k.source node.id k.wormhole).run ctx' = _ at h'
  rw [createConnectedNode, StateT.run_bind, h]
  change (c.createLink map k.source node.id k.wormhole >>= _).run ctx' = _
  rw [StateT.run_bind, h']
  cases linked <;> rfl

end

/-- Whatever the backend answers, the node is posted first, and the link to it once and only if the
answer brings the node. Both are given back if the second answer brings the link, and otherwise the
node, if there is one, with the error, which is what the user is told. -/
theorem createConnectedNode_connects (c : Client) (map : MapId) (k : Attachment)
    (ctx : Context σ) :
    let after :=
      (c.createConnectedNode map k.source k.system k.position k.wormhole).run ctx
    ∃ made toasts, ctx.wire.Sends made after.2.wire ∧
      after.2.toasts.toasts = ctx.toasts.toasts ++ toasts ∧
      Connects c map k made toasts after.1 ∧ ∀ e ∈ made, e.message.request.method = .post := by
  obtain ⟨e, wire, hsent, hmessage, hfirst⟩ := k.createNode.run_cases c map ctx
  have hnode := e.postsNode hmessage
  rcases hfirst with ⟨r, node, hreply, hstatus, hgives, hrun⟩ | ⟨error, hfails, hrun⟩
  · have hcreated : k.createNode.SucceedsOn e.reply node := ⟨r, hreply, hstatus, hgives⟩
    obtain ⟨e', wire', hsent', hmessage', hsecond⟩ :=
      (k.createLink node).run_cases c map { ctx with wire }
    have hlink := e'.postsLink hmessage'
    have hsends : ctx.wire.Sends [e, e'] wire' := .more hsent (.more hsent' (.none wire'))
    rcases hsecond with ⟨r', link, hreply', hstatus', hgives', hrun'⟩ | ⟨error, hfails, hrun'⟩
    · rw [run_created hrun hrun']
      have hconnects := Connects.connected hnode hcreated hlink ⟨r', hreply', hstatus', hgives'⟩
      exact ⟨_, _, hsends, (List.append_nil _).symm, hconnects, fun _ => hconnects.method_eq⟩
    · rw [run_created hrun hrun']
      have hconnects := Connects.linkFailed hnode hcreated hlink hfails
      exact ⟨_, _, hsends, rfl, hconnects, fun _ => hconnects.method_eq⟩
  · rw [run_nodeFailed hrun]
    have hconnects := Connects.nodeFailed hnode hfails
    exact ⟨_, _, .more hsent (.none wire), rfl, hconnects, fun _ => hconnects.method_eq⟩

end Client

end WormholeMap
