import Vignette.Size

/-!
# Kinds of pages

A page shows a chart or a dashboard. Both go through the same steps; the kind decides the element
that is captured, the standalone mode that the page is asked for (a chart hides its navigation, a
dashboard switches to report mode), and the sizes when none are given.
-/

namespace Vignette

/-- What a page shows. -/
inductive Kind
  | chart
  | dashboard
  deriving DecidableEq, Repr

namespace Kind

/-- The kinds, in the order in which messages list them. -/
def all : List Kind := [chart, dashboard]

theorem mem_all (kind : Kind) : kind ∈ all := by cases kind <;> decide

/-- The name in keys, settings, counters and messages. -/
def name : Kind → String
  | chart => "chart"
  | dashboard => "dashboard"

instance : ToString Kind := ⟨name⟩

/-- The selector of the element that is captured. -/
def selector : Kind → String
  | chart => ".chart-container"
  | dashboard => ".standalone"

/-- The value of the query parameter `standalone`. -/
def standaloneMode : Kind → String
  | chart => "true"
  | dashboard => "3"

/-- The sizes when none are given. -/
def defaultSizes : Kind → Preset
  | chart => ⟨⟨800, 600⟩, ⟨800, 600⟩⟩
  | dashboard => ⟨⟨1600, 1200⟩, ⟨800, 600⟩⟩

/-- Why a text names no kind: the text, in lower case. -/
structure Unknown where
  name : String
  deriving DecidableEq, Repr

/-- The sentence that a message shows. -/
def Unknown.message (e : Unknown) : String := s!"Unknown screenshot kind: {e.name}"

/-- The kind that a text names, in any mixture of cases. -/
def parse (input : String) : Except Unknown Kind :=
  match input.toLower with
  | "chart" => .ok chart
  | "dashboard" => .ok dashboard
  | other => .error ⟨other⟩

end Kind

end Vignette
