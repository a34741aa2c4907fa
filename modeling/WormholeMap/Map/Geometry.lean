import WormholeMap.Json.Document

/-!
Places on a map and views of it.
-/

namespace WormholeMap

open Json

/-- A point of a map. -/
structure Position where
  x : Float
  y : Float
  deriving BEq

/-- How far a view of a map is moved and how much it is enlarged. -/
structure Viewport where
  x : Float
  y : Float
  zoom : Float
  deriving BEq

def Position.origin : Position := ⟨0.0, 0.0⟩

def Viewport.initial : Viewport := ⟨0.0, 0.0, 1.0⟩

variable {δ : Type} [Document δ]

def Position.fields : List (List String) := [["x"], ["y"]]

def Position.read (d : δ) : Option Position := do
  let fields ← readRecord Position.fields d
  return { x := ← required readFloat "x" fields, y := ← required readFloat "y" fields }

def Position.toJson (p : Position) : Json := .object [("x", float p.x), ("y", float p.y)]

def Viewport.fields : List (List String) := [["x"], ["y"], ["zoom"]]

def Viewport.read (d : δ) : Option Viewport := do
  let fields ← readRecord Viewport.fields d
  return {
    x := ← required readFloat "x" fields
    y := ← required readFloat "y" fields
    zoom := ← required readFloat "zoom" fields }

def Viewport.toJson (v : Viewport) : Json :=
  .object [("x", float v.x), ("y", float v.y), ("zoom", float v.zoom)]

end WormholeMap
