import Mathlib
import ScopedStyles.Filter
import ScopedStyles.Proofs.Words

/-! # The default patterns

The default lists hold four regular expressions, and each of them stands for words
(`Pattern.words?`), so that what it searches for can be said of the characters of an id alone
(`Regex.Searches`): the two for files look for an extension from a list (`HasExtension`), the two
for directories look for a name between two separators (`PassesThrough`). -/

namespace ScopedStyles

open Pattern (Word words?)

/-! ### Words in a text of characters -/

def codesOf (s : List Char) : List Nat := s.map Char.toNat

theorem codesOf_injective : Function.Injective codesOf :=
  List.map_injective_iff.mpr fun _ _ h => Char.toNat_inj.mp h

theorem standsIn_last_iff {s cs : List Char} :
    Word.StandsIn (codesOf s) ⟨codesOf cs, true⟩ ↔ cs <:+ s := by
  have hlast : Word.StandsIn (codesOf s) ⟨codesOf cs, true⟩ ↔ codesOf cs <:+ codesOf s := by
    constructor
    · rintro ⟨u, v, hs, hv⟩
      obtain rfl := hv rfl
      exact ⟨u, by rw [hs, List.append_nil]⟩
    · rintro ⟨u, hu⟩
      exact ⟨u, [], by rw [hu, List.append_nil], fun _ => rfl⟩
  rw [hlast]
  constructor
  · intro h
    obtain ⟨ds, hds, heq⟩ := List.suffix_map_iff.mp h
    rwa [codesOf_injective heq]
  · exact fun h => h.map _

theorem standsIn_inside_iff {s cs : List Char} :
    Word.StandsIn (codesOf s) ⟨codesOf cs, false⟩ ↔ cs <:+: s := by
  have hinside : Word.StandsIn (codesOf s) ⟨codesOf cs, false⟩ ↔ codesOf cs <:+: codesOf s := by
    constructor
    · rintro ⟨u, v, hs, -⟩
      exact ⟨u, v, hs.symm⟩
    · rintro ⟨u, v, hs⟩
      exact ⟨u, v, hs.symm, fun h => absurd h Bool.false_ne_true⟩
  rw [hinside]
  constructor
  · intro h
    obtain ⟨ds, hds, heq⟩ := List.infix_map_iff.mp h
    rwa [codesOf_injective heq]
  · exact fun h => h.map _

theorem spans_inside_iff {s cs : List Char} {i j : Nat} :
    Word.Spans (codesOf s) ⟨codesOf cs, false⟩ i j ↔ cs <+: s.drop i ∧ j = i + cs.length := by
  have hstarts : codesOf cs <+: (codesOf s).drop i ↔ cs <+: s.drop i := by
    unfold codesOf
    rw [← List.map_drop]
    constructor
    · intro h
      obtain ⟨ds, hds, heq⟩ := List.prefix_map_iff.mp h
      rwa [codesOf_injective heq]
    · exact fun h => h.map _
  unfold Word.Spans
  rw [hstarts]
  simp [codesOf]

/-! ### Extensions -/

/-- Some dot of the id is followed by the name, and then by the end of the id or a question mark. -/
def HasExtension (id : List Char) (name : String) : Prop :=
  ∃ u v, id = u ++ '.' :: (name.toList ++ v) ∧ (v = [] ∨ ∃ w, v = '?' :: w)

theorem hasExtension_iff {id : List Char} {name : String} : HasExtension id name ↔
    '.' :: name.toList <:+ id ∨ '.' :: name.toList ++ ['?'] <:+: id := by
  constructor
  · rintro ⟨u, v, rfl, rfl | ⟨w, rfl⟩⟩
    · exact .inl ⟨u, by simp⟩
    · exact .inr ⟨u, w, by simp⟩
  · rintro (⟨u, rfl⟩ | ⟨u, w, rfl⟩)
    · exact ⟨u, [], by simp, .inl rfl⟩
    · exact ⟨u, '?' :: w, by simp, .inr ⟨w, rfl⟩⟩

instance (id : List Char) (name : String) : Decidable (HasExtension id name) :=
  decidable_of_iff _ hasExtension_iff.symm

def extensionWords (name : String) : List Word :=
  [⟨codesOf ('.' :: name.toList), true⟩, ⟨codesOf ('.' :: name.toList ++ ['?']), false⟩]

theorem standsIn_extensionWords_iff {id : List Char} {names : List String} :
    (∃ w ∈ names.flatMap extensionWords, w.StandsIn (codesOf id)) ↔
      ∃ name ∈ names, HasExtension id name := by
  have hone (name : String) :
      (∃ w ∈ extensionWords name, w.StandsIn (codesOf id)) ↔ HasExtension id name := by
    simp only [extensionWords, List.mem_cons, List.not_mem_nil, or_false, exists_eq_or_imp,
      exists_eq_left, standsIn_last_iff, standsIn_inside_iff, hasExtension_iff]
  simp only [List.mem_flatMap, ← hone]
  constructor
  · rintro ⟨w, ⟨name, hname, hw⟩, hstands⟩
    exact ⟨name, hname, w, hw, hstands⟩
  · rintro ⟨name, hname, w, hw, hstands⟩
    exact ⟨w, ⟨name, hname, hw⟩, hstands⟩

/-! ### Directories -/

/-- What stands between the parts of a path. -/
def separators : List Char := ['/', '\\']

/-- The name stands in the id, with a separator right before it and one right after it. -/
def PassesThrough (id : List Char) (name : String) : Prop :=
  ∃ a ∈ separators, ∃ b ∈ separators, a :: name.toList ++ [b] <:+: id

-- By the two separators, and not by all characters.
instance (id : List Char) (name : String) : Decidable (PassesThrough id name) :=
  have (a : Char) : Decidable (∃ b ∈ separators, a :: name.toList ++ [b] <:+: id) :=
    List.decidableBEx _ separators
  List.decidableBEx _ separators

def directoryWords (name : String) : List Word :=
  separators.flatMap fun a => separators.map fun b => ⟨codesOf (a :: name.toList ++ [b]), false⟩

theorem standsIn_directoryWords_iff {id : List Char} {name : String} :
    (∃ w ∈ directoryWords name, w.StandsIn (codesOf id)) ↔ PassesThrough id name := by
  unfold directoryWords PassesThrough
  constructor
  · rintro ⟨w, hw, hstands⟩
    obtain ⟨a, ha, hw⟩ := List.mem_flatMap.mp hw
    obtain ⟨b, hb, rfl⟩ := List.mem_map.mp hw
    exact ⟨a, ha, b, hb, standsIn_inside_iff.mp hstands⟩
  · rintro ⟨a, ha, b, hb, hin⟩
    exact ⟨_, List.mem_flatMap.mpr ⟨a, ha, List.mem_map_of_mem hb⟩, standsIn_inside_iff.mpr hin⟩

/-! ### What the patterns search for -/

/-- The text is a regular expression, and it matches the ids with a property. -/
def Regex.Searches (text : String) (P : List Char → Prop) : Prop :=
  ∃ e, compile text.toList = .ok e ∧
    ∀ id : String, (Matcher.regex e).isMatch id = true ↔ P id.toList

theorem ok_of_toOption {ε α : Type} {x : Except ε α} {a : α} (h : x.toOption = some a) :
    x = .ok a := by
  cases x with
  | error e => cases h
  | ok b => exact congrArg _ (Option.some.inj h)

/-- A text is compiled to an expression that stands for words.  The text is given by its characters,
which are faster to evaluate than those of a literal. -/
theorem Regex.compile_of_words {cs : List Char} {ws : List Word}
    (hwords : (compile cs).toOption.bind words? = some ws) :
    ∃ e, compile (String.ofList cs).toList = .ok e ∧ words? e = some ws := by
  obtain ⟨e, he, hws⟩ := Option.bind_eq_some_iff.mp hwords
  rw [String.toList_ofList]
  exact ⟨e, ok_of_toOption he, hws⟩

theorem Regex.searches_of_words {cs : List Char} (ws : List Word) {P : List Char → Prop}
    (hwords : (compile cs).toOption.bind words? = some ws)
    (hP : ∀ id, (∃ w ∈ ws, w.StandsIn (codesOf id)) ↔ P id) : Searches (String.ofList cs) P := by
  obtain ⟨e, he, hws⟩ := compile_of_words hwords
  exact ⟨e, he, fun id => (Pattern.matchesSomewhere_iff_words hws).trans (hP id.toList)⟩

def sourceExtensions : List String :=
  ["vue", "svelte", "js", "jsx", "ts", "tsx", "md", "mdx", "astro", "elm", "php", "phtml", "html"]

def styleExtensions : List String := ["css", "postcss", "sass", "scss", "less", "stylus", "styl"]

theorem searches_sources :
    Regex.Searches "\\.(vue|svelte|[jt]sx?|mdx?|astro|elm|php|phtml|html)($|\\?)"
      fun id => ∃ name ∈ sourceExtensions, HasExtension id name := by
  refine Regex.searches_of_words (sourceExtensions.flatMap extensionWords) ?_
    fun _ => standsIn_extensionWords_iff
  decide +kernel

theorem searches_styles :
    Regex.Searches "\\.(css|postcss|sass|scss|less|stylus|styl)($|\\?)"
      fun id => ∃ name ∈ styleExtensions, HasExtension id name := by
  refine Regex.searches_of_words (styleExtensions.flatMap extensionWords) ?_
    fun _ => standsIn_extensionWords_iff
  decide +kernel

theorem searches_packages :
    Regex.Searches "[/\\\\]node_modules[/\\\\]" (PassesThrough · "node_modules") := by
  refine Regex.searches_of_words (directoryWords "node_modules") ?_
    fun _ => standsIn_directoryWords_iff
  decide +kernel

theorem searches_history :
    Regex.Searches "[/\\\\]\\.git[/\\\\]" (PassesThrough · ".git") := by
  refine Regex.searches_of_words (directoryWords ".git") ?_
    fun _ => standsIn_directoryWords_iff
  decide +kernel

end ScopedStyles
