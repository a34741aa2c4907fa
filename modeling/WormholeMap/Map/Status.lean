import WormholeMap.Json.Document

/-!
The stages that connections decay through, and the ways to draw a map.
-/

namespace WormholeMap

open Json

/-- How much lifetime a connection has left. -/
inductive Lifetime where
  | stable
  | aging
  | critical
  | eol
  deriving DecidableEq

/-- How much of its mass budget a connection has left. -/
inductive MassUsage where
  | stable
  | destabilized
  | critical
  deriving DecidableEq

/-- The line that connections are drawn with. -/
inductive LineStyle where
  | default
  | straight
  | step
  | smoothstep
  | simplebezier
  deriving DecidableEq

/-- The direction that the ranks of a layout follow one another in: top to bottom, bottom to top,
left to right, right to left. -/
inductive RankDirection where
  | tb
  | bt
  | lr
  | rl
  deriving DecidableEq

namespace Lifetime

def name : Lifetime → String
  | stable => "stable"
  | aging => "aging"
  | critical => "critical"
  | eol => "eol"

def ofName? : String → Option Lifetime
  | "stable" => some stable
  | "aging" => some aging
  | "critical" => some critical
  | "eol" => some eol
  | _ => none

def severity : Lifetime → Nat
  | stable => 0
  | aging => 1
  | critical => 2
  | eol => 3

end Lifetime

namespace MassUsage

def name : MassUsage → String
  | stable => "stable"
  | destabilized => "destabilized"
  | critical => "critical"

def ofName? : String → Option MassUsage
  | "stable" => some stable
  | "destabilized" => some destabilized
  | "critical" => some critical
  | _ => none

def severity : MassUsage → Nat
  | stable => 0
  | destabilized => 1
  | critical => 2

end MassUsage

namespace LineStyle

def name : LineStyle → String
  | default => "default"
  | straight => "straight"
  | step => "step"
  | smoothstep => "smoothstep"
  | simplebezier => "simplebezier"

def ofName? : String → Option LineStyle
  | "default" => some default
  | "straight" => some straight
  | "step" => some step
  | "smoothstep" => some smoothstep
  | "simplebezier" => some simplebezier
  | _ => none

end LineStyle

namespace RankDirection

def name : RankDirection → String
  | tb => "TB"
  | bt => "BT"
  | lr => "LR"
  | rl => "RL"

def ofName? : String → Option RankDirection
  | "TB" => some tb
  | "BT" => some bt
  | "LR" => some lr
  | "RL" => some rl
  | _ => none

end RankDirection

variable {δ : Type} [Document δ]

def Lifetime.read (d : δ) : Option Lifetime := readCase Lifetime.ofName? d
def MassUsage.read (d : δ) : Option MassUsage := readCase MassUsage.ofName? d
def LineStyle.read (d : δ) : Option LineStyle := readCase LineStyle.ofName? d
def RankDirection.read (d : δ) : Option RankDirection := readCase RankDirection.ofName? d

def Lifetime.toJson (s : Lifetime) : Json := .string s.name
def MassUsage.toJson (s : MassUsage) : Json := .string s.name
def LineStyle.toJson (s : LineStyle) : Json := .string s.name
def RankDirection.toJson (s : RankDirection) : Json := .string s.name

/-- Names sorted by severity, equal ones in the order given. -/
def sortBySeverity (severity : α → Nat) (items : List α) : List α :=
  items.mergeSort fun a b => severity a ≤ severity b

end WormholeMap
