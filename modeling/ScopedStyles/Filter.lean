import ScopedStyles.Glob.Anchor
import ScopedStyles.Glob.Limits
import ScopedStyles.Options
import ScopedStyles.Regex.Compile

/-! # Filtering files

Which files are candidates for transformation.  A file is rejected if an exclude pattern matches its
id; otherwise it is accepted if an include pattern does, or if the include list is empty.  A list
that is not given stands for the default list.  Globs see the id with slashes only and are anchored
at a base directory; regular expressions search the id as it is. -/

namespace ScopedStyles

/-! ### Default lists -/

/-- Source files of scripts, components and pages. -/
def defaultIncludes : List String := [
  "\\.(vue|svelte|[jt]sx?|mdx?|astro|elm|php|phtml|html)($|\\?)"]

/-- Stylesheets, installed packages and version control. -/
def defaultExcludes : List String := [
  "\\.(css|postcss|sass|scss|less|stylus|styl)($|\\?)",
  "[/\\\\]node_modules[/\\\\]",
  "[/\\\\]\\.git[/\\\\]"]

/-! ### Compiled patterns -/

inductive Matcher
  | glob (parts : List Glob.Part)
  | regex (e : Pattern)

def Matcher.isMatch (id : String) : Matcher → Bool
  | glob parts => Glob.matchesText parts (Glob.slashed id.toList)
  | regex e => Pattern.matchesSomewhere e (id.toList.map Char.toNat)

/-- A pattern that does not compile, as it was given, and why. -/
structure InvalidPattern where
  pattern : String
  reason : String
deriving DecidableEq, Repr

def InvalidPattern.message (p : InvalidPattern) : String :=
  "invalid filter pattern `" ++ p.pattern ++ "`: " ++ p.reason

/-- Why an anchored glob does not compile. -/
def globReason (anchored : List Char) (f : Glob.Fault) : String :=
  "error parsing glob '" ++ String.ofList anchored ++ "': " ++ f.message

/-- Why a pattern is not compiled. -/
inductive CompileFailure
  /-- The pattern is refused. -/
  | invalid (p : InvalidPattern)
  /-- A glob can be read but is over a limit; there is no report, and the program stops. -/
  | crash (e : Glob.Excess)
deriving DecidableEq, Repr

/-- Compiles a pattern; globs are anchored at a base, which has slashes only. -/
def FilterPattern.compile (base : List Char) : FilterPattern → Except CompileFailure Matcher
  | glob text =>
      let anchored := Glob.anchor base text.toList
      match Glob.parse anchored with
      | .ok parts =>
          match Glob.excess? parts with
          | none => .ok (.glob parts)
          | some e => .error (.crash e)
      | .error f => .error (.invalid ⟨text, globReason anchored f⟩)
  | regex text =>
      match Regex.compile text.toList with
      | .ok e => .ok (.regex e)
      | .error r => .error (.invalid ⟨text, r.message text.toList⟩)

/-- Compiles patterns in their order, up to the first one that does not compile. -/
def compileAll (base : List Char) : List FilterPattern → Except CompileFailure (List Matcher)
  | [] => .ok []
  | p :: rest => do
      let m ← p.compile base
      let ms ← compileAll base rest
      return m :: ms

/-! ### Filters -/

structure Filter where
  includes : List Matcher
  excludes : List Matcher

namespace Filter

/-- A list of patterns, or the default list if there is none. -/
def listOr (defaults : List String) (given : Option (List FilterPattern)) : List FilterPattern :=
  given.getD (defaults.map .regex)

/-- Compiles the lists of options, the include list first. -/
def build (o : Options) (base : String) : Except CompileFailure Filter := do
  let base := Glob.slashed base.toList
  let includes ← compileAll base (listOr defaultIncludes o.includes)
  let excludes ← compileAll base (listOr defaultExcludes o.excludes)
  return { includes, excludes }

/-- Whether a file is a candidate. -/
def accepts (f : Filter) (id : String) : Bool :=
  !(f.excludes.any (·.isMatch id))
    && (f.includes.isEmpty || f.includes.any (·.isMatch id))

end Filter
end ScopedStyles
