import WormholeMap.Graph

/-!
Drawing: the nodes and edges of a graph as a layout takes them.
-/

namespace WormholeMap

/-- A node to draw. -/
structure RenderNode where
  id : NodeId
  position : Position
  data : Node
  draggable : Bool

/-- An edge to draw. -/
structure RenderEdge where
  id : LinkId
  source : NodeId
  target : NodeId
  data : Link
  lineStyle : LineStyle
  sourceLabel : String
  targetLabel : String

namespace Graph

/-- The nodes in their order. Locked ones cannot be dragged, and none of a read-only map can. -/
def renderNodes (g : Graph) (readOnly : Bool) : List RenderNode :=
  g.nodes.map fun n =>
    { id := n.id, position := n.position, data := n, draggable := !readOnly && !n.locked }

/-- The links in their order, without those that miss an end. -/
def renderEdges (g : Graph) : List RenderEdge :=
  (g.links.filter fun l => (g.node? l.source).isSome && (g.node? l.target).isSome).map fun l =>
    { id := l.id
      source := l.source
      target := l.target
      data := l
      lineStyle := g.display.lineStyle
      sourceLabel := l.sourceLabel
      targetLabel := l.targetLabel }

end Graph

end WormholeMap
