import MediaLibrary.Logging.Directive
import MediaLibrary.Settings.Basic

/-!
# Logging — the filter

The filter decides which events are logged. It comes from the environment, else
from the settings, else it is the default; the first of these texts that can be
read wins. Of two directives for the same events the later one counts.

* `LogFilter.read` — the filter of a text;
* `LogFilter.choose` — the filter that is used;
* `LogFilter.text`, `LogFilter.maxLevel` — what a filter shows of itself.
-/

namespace MediaLibrary

/-- The directives of a filter, those to be tried without knowing the span apart from those that
need it. A directive that can be tried both ways is on both lists. The highest level is that of
all directives that were read, also of those that a later one replaced. -/
structure LogFilter where
  statics : List LogDirective
  dynamics : List LogDirective
  highest : LogLevel
deriving DecidableEq

namespace LogFilter

/-- Puts a directive into its place, instead of one for the same events. -/
def place (d : LogDirective) : List LogDirective → List LogDirective
  | [] => [d]
  | e :: es =>
    match d.compare e with
    | .lt => d :: e :: es
    | .eq => d :: es
    | .gt => e :: place d es

/-- Directives in the order in which they are tried. -/
def arrange (ds : List LogDirective) : List LogDirective :=
  ds.foldl (fun placed d => place d placed) []

/-- The filter of directives. Without any, nothing gets through. -/
def ofDirectives (ds : List LogDirective) : LogFilter :=
  let (dynamics, plain) := ds.partition LogDirective.isDynamic
  { statics := arrange (plain ++ dynamics.filter LogDirective.isStatic)
    dynamics := arrange dynamics
    highest := (ds.map (·.level)).foldl .max .off }

/-- The pieces of a text between commas. -/
def pieces (s : String) : List (List Char) :=
  (s.toList.splitOnP (· == ',')).filter (!·.isEmpty)

/-- The filter of a text. -/
def read (s : String) : Except LogFault LogFilter :=
  ((pieces s).mapM LogDirective.read).map ofDirectives

/-- The filter that lets information through. -/
def default : LogFilter :=
  ofDirectives [{ level := .info }]

/-- The filter of the first text that can be read, else the default. -/
def firstOf : List String → Except LogFault LogFilter
  | [] => .ok default
  | s :: ss =>
    match read s with
    | .error .unreadable => firstOf ss
    | outcome => outcome

/-- The filter from the environment, else from the settings, else the default. -/
def choose (environment : Option String) (settings : LoggingSettings) : Except LogFault LogFilter :=
  firstOf (environment.toList ++ [settings.level])

/-- The text of a filter. -/
def text (f : LogFilter) : String :=
  String.intercalate "," ((f.statics ++ f.dynamics).map LogDirective.text)

/-- The level above which nothing gets through. Values are known only later, so with a directive
that asks for one everything may get through. -/
def maxLevel (f : LogFilter) : LogLevel :=
  if f.dynamics.any LogDirective.hasValue then .trace else f.highest

end LogFilter

end MediaLibrary
