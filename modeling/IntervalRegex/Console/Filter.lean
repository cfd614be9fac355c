import IntervalRegex.Console.Event
import IntervalRegex.Text.Decimal
import IntervalRegex.Text.Letter

/-!
# Filters

A filter decides which events are shown. Each directive gives the targets that begin with its name
the least severity shown, and the directive with the longest name decides. Program output is always
shown.

A setting is a list of severities and of targets, with a severity behind the target or without one.
Spans and fields, which a directive can name in brackets, are no part of it: a setting with an opening
bracket counts as one that cannot be read.
-/

namespace IntervalRegex

/-- Events below the threshold are dropped; without a threshold all are. -/
structure Directive where
  target : String
  threshold : Option Severity
deriving DecidableEq, Repr

namespace Directive

/-- A severity by name, in any case, or by number. -/
def readThreshold (cs : List Char) : Option (Option Severity) :=
  match String.ofList (cs.map Char.toLower) with
  | "trace" => some (some .trace)
  | "debug" => some (some .debug)
  | "info" => some (some .info)
  | "warn" => some (some .warn)
  | "error" => some (some .error)
  | "off" => some none
  | _ =>
    match Text.readDigits (if cs.head? = some '+' then cs.tail else cs) with
    | some 0 => some none
    | some 1 => some (some .error)
    | some 2 => some (some .warn)
    | some 3 => some (some .info)
    | some 4 => some (some .debug)
    | some 5 => some (some .trace)
    | _ => none

def isTargetStart (c : Char) : Bool :=
  c == '-' || c == ':' || c == '_' || Text.isAlphanumeric c

/-- A threshold for all targets, a target, or both with `=` between. A target alone shows all of its
events. Spans and fields are not read. -/
def read (cs : List Char) : Option Directive :=
  if cs.head?.any isTargetStart && !cs.contains '[' then
    let name := cs.takeWhile (· ≠ '=')
    match cs.dropWhile (· ≠ '=') with
    | [] =>
      match readThreshold cs with
      | some threshold => some ⟨"", threshold⟩
      | none => some ⟨String.ofList cs, some .trace⟩
    | _ :: [] => some ⟨String.ofList name, some .trace⟩
    | _ :: level => (readThreshold level).map fun threshold => ⟨String.ofList name, threshold⟩
  else
    none

def covers (d : Directive) (target : Target) : Bool :=
  d.target.toList.isPrefixOf target.name.toList

end Directive

/-- Of two directives for the same name the later one counts. -/
abbrev Filter := List Directive

namespace Filter

/-- Directives with commas between them. Without any, only errors are shown. -/
def read (text : String) : Option Filter := do
  let pieces := (text.toList.splitOn ',').filter fun piece => !piece.isEmpty
  let directives ← pieces.mapM Directive.read
  return if directives.isEmpty then [⟨"", some .error⟩] else directives

/-- The filter for a setting of severities and targets. Without one, or with one that cannot be
read, events from `info` up are shown. -/
def ofSetting (setting : Option String) : Filter :=
  ((setting.bind read).getD [⟨"", some .info⟩]) ++ [⟨Target.print.name, some .info⟩]

/-- The directive that decides on a target. -/
def decisive (filter : Filter) (target : Target) : Option Directive :=
  filter.foldl
    (fun best d =>
      if d.covers target && best.all fun b => b.target.length ≤ d.target.length then some d
      else best)
    none

def shows (filter : Filter) (e : Event) : Bool :=
  match filter.decisive e.target with
  | some ⟨_, some threshold⟩ => threshold.rank ≤ e.severity.rank
  | _ => false

/-- What is written for a sequence of events. -/
def output (filter : Filter) (color : Bool) (events : List Event) : String :=
  String.ofList ((events.filter filter.shows).flatMap (Event.line color))

end Filter

end IntervalRegex
