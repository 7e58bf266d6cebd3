import SpriteRenderer.Blank
import SpriteRenderer.Log

/-!
# Log filters

A filter is a list of directives, each a scope and the most verbose level
that passes in it. A record is judged by the directive with the longest scope
that its target lies in, and of two as long by the one listed last; where
none applies, nothing passes.

A filter text is a comma list of `level`, `target=level` and `target`; a
level alone applies everywhere, and a target alone lets everything through.
A later directive of the same scope takes the place of the earlier one, and a
text without any directive lets errors through. Behind a slash there may be a
pattern for the texts of records, which has no say about levels.

Reading and applying filter texts is the business of a logging library, not of
the renderer. Its rules stand here in its place, so that the choice of a filter
(`LoggingConfig.resolve`) can be run; the renderer and the host only write
records, and no theorem about them depends on which records pass.
-/

namespace SpriteRenderer

/-- Levels by rank: a more verbose level has the higher one. -/
def Level.rank : Level → Nat
  | .error => 1
  | .warn => 2
  | .info => 3
  | .debug => 4
  | .trace => 5

/-- What passes: nothing, or every level up to one. -/
abbrev Threshold := Option Level

def Threshold.rank : Threshold → Nat
  | none => 0
  | some level => level.rank

/-- The targets that a directive is about. -/
inductive Scope where
  | everywhere
  /-- Targets that start with a text. The empty one covers as much as
  `everywhere`, and is still a scope of its own. -/
  | startingWith (text : List Char)
deriving DecidableEq

namespace Scope

def covers : Scope → List Char → Bool
  | .everywhere, _ => true
  | .startingWith text, target => text.isPrefixOf target

def length : Scope → Nat
  | .everywhere => 0
  | .startingWith text => text.length

end Scope

/-- Lets records in a scope pass up to a limit. -/
structure Directive where
  scope : Scope
  limit : Threshold

/-- Directives with different scopes. -/
abbrev LogFilter := List Directive

namespace LogFilter

/-- Adds a directive, or puts it in the place of the one with its scope. -/
def insert (f : LogFilter) (d : Directive) : LogFilter :=
  if f.any (·.scope == d.scope) then f.map fun e => if e.scope == d.scope then d else e
  else f ++ [d]

/-- The directive that decides about a target. -/
def deciding? (f : LogFilter) (target : List Char) : Option Directive :=
  (f.filter (·.scope.covers target)).foldl
    (fun best d =>
      match best with
      | some b => if b.scope.length ≤ d.scope.length then some d else best
      | none => some d)
    none

/-- The most verbose level that passes for a target. -/
def limit (f : LogFilter) (target : String) : Threshold :=
  (f.deciding? target.toList).bind Directive.limit

/-- The most verbose level that passes for any target. -/
def maxLimit (f : LogFilter) : Threshold :=
  f.foldl (fun m d => if Threshold.rank m < Threshold.rank d.limit then d.limit else m) none

/-! ## Reading filter texts -/

/-- Cuts a text at every `separator`. -/
def cut (separator : Char) : List Char → List (List Char)
  | [] => [[]]
  | c :: rest =>
      match cut separator rest with
      | [] => [[c]]
      | part :: parts => if c = separator then [] :: part :: parts else (c :: part) :: parts

/-- Reads a level by its name in any case; `off` lets nothing through. -/
def threshold? (cs : List Char) : Option Threshold :=
  match String.ofList (cs.map Char.toLower) with
  | "off" => some none
  | "error" => some (some .error)
  | "warn" => some (some .warn)
  | "info" => some (some .info)
  | "debug" => some (some .debug)
  | "trace" => some (some .trace)
  | _ => none

/-- Reads one directive; one that makes no sense is left out. -/
def directive? (cs : List Char) : Option Directive :=
  match cut '=' (Blank.trim cs) with
  | [[]] => none
  | [word] =>
      match threshold? word with
      | some limit => some ⟨.everywhere, limit⟩
      | none => some ⟨.startingWith word, some .trace⟩
  | [target, level] =>
      match Blank.trim level with
      | [] => some ⟨.startingWith target, some .trace⟩
      | level => (threshold? level).map (Directive.mk (.startingWith target))
  | _ => none

/-- The part of a filter text that holds directives: what stands before a
slash. A text with more than one slash holds none. -/
def directivePart (cs : List Char) : List Char :=
  match cut '/' cs with
  | [directives] => directives
  | [directives, _] => directives
  | _ => []

/-- Reads a filter text. -/
def parse (text : String) : LogFilter :=
  match ((cut ',' (directivePart text.toList)).filterMap directive?).foldl insert [] with
  | [] => [⟨.everywhere, some .error⟩]
  | filter => filter

/-- What passes when nobody gave a filter: news of everything, but only
warnings of the graphics stack. -/
def standard : LogFilter :=
  ⟨.everywhere, some .info⟩ :: ["wgpu_core", "wgpu_hal", "naga"].map fun target =>
    ⟨.startingWith target.toList, some .warn⟩

end LogFilter

/-! ## Setting up logging -/

/-- How verbose a host wants the log: a filter text of its own, or the
environment's, or the standard. -/
structure LoggingConfig where
  filter : Option String

/-- The filter that a configuration asks for. -/
def LoggingConfig.resolve (c : LoggingConfig) (environment : Option String) : LogFilter :=
  match c.filter.or environment with
  | some text => LogFilter.parse text
  | none => LogFilter.standard

/-- The filter in force after a host set up logging several times over. The
first logger stays, whether a host installed it beforehand or the first
configuration did; without one there is no filter at all. -/
def installedFilter (host : Option LogFilter) (environment : Option String)
    (configs : List LoggingConfig) : Option LogFilter :=
  host.or (configs.head?.map (·.resolve environment))

end SpriteRenderer
