import DataAccess.Casing
import DataAccess.Schema.Validity
import DataAccess.Text.Alphanumeric
import DataAccess.Text.Blank

/-!
Identifiers are made of ASCII letters, digits and underscores. In `camelCase` they are made of the
same characters, and only the underscores of a name can be lost.
-/
set_option autoImplicit false

namespace DataAccess

open Text

theorem toNat_lt_of_isIdentifierChar (c : Char) (letter : isIdentifierChar c = true) :
    c.toNat < 128 := by
  rw [isIdentifierChar] at letter
  delta Char.isAlphanum Char.isAlpha Char.isUpper Char.isLower Char.isDigit at letter
  simp only [Bool.or_eq_true, Bool.and_eq_true, decide_eq_true_eq, beq_iff_eq, ge_iff_le,
    UInt32.le_iff_toNat_le] at letter
  rcases letter with (((⟨-, upper⟩ | ⟨-, upper⟩) | ⟨-, upper⟩) | rfl)
  · exact Nat.lt_of_le_of_lt upper (by decide)
  · exact Nat.lt_of_le_of_lt upper (by decide)
  · exact Nat.lt_of_le_of_lt upper (by decide)
  · decide

/-- What holds of the ASCII identifier characters one by one. -/
theorem identifierChar_cases {P : Char → Prop}
    (each : ∀ code < 128, isIdentifierChar (Char.ofNat code) = true → P (Char.ofNat code))
    (c : Char) (letter : isIdentifierChar c = true) : P c := by
  have small := toNat_lt_of_isIdentifierChar c letter
  rw [← Char.ofNat_toNat c] at letter ⊢
  exact each c.toNat small letter

theorem isBlank_of_isIdentifierChar (c : Char) (letter : isIdentifierChar c = true) :
    isBlank c = false :=
  identifierChar_cases (P := fun c => isBlank c = false) (by decide +kernel) c letter

theorem isIdentChar_of_isIdentifierChar (c : Char) (letter : isIdentifierChar c = true) :
    isIdentChar c = true :=
  identifierChar_cases (P := fun c => isIdentChar c = true) (by decide +kernel) c letter

theorem isIdentifierChar_toLower (c : Char) (letter : isIdentifierChar c = true) :
    isIdentifierChar c.toLower = true :=
  identifierChar_cases (P := fun c => isIdentifierChar c.toLower = true) (by decide +kernel) c
    letter

theorem isIdentifierChar_toUpper (c : Char) (letter : isIdentifierChar c = true) :
    isIdentifierChar c.toUpper = true :=
  identifierChar_cases (P := fun c => isIdentifierChar c.toUpper = true) (by decide +kernel) c
    letter

theorem letters_of_isIdentifier (text : String) (identifier : isIdentifier text = true) :
    ∀ c ∈ text.toList, isIdentifierChar c = true := by
  intro c member
  unfold isIdentifier at identifier
  cases chars : text.toList with
  | nil => simp [chars] at member
  | cons first rest =>
    rw [chars] at identifier member
    obtain ⟨start, tail⟩ := Bool.and_eq_true_iff.1 identifier
    rcases List.mem_cons.1 member with rfl | later
    · have wider : isIdentifierStart c = true → isIdentifierChar c = true := by
        simp only [isIdentifierStart, isIdentifierChar, Char.isAlphanum, Bool.or_eq_true]
        rintro (letter | underscore)
        · exact .inl (.inl letter)
        · exact .inr underscore
      exact wider start
    · exact List.all_eq_true.1 tail c later

theorem filled_of_isIdentifier (text : String) (identifier : isIdentifier text = true) :
    text.toList ≠ [] := by
  intro empty
  simp [isIdentifier, empty] at identifier

section Clusters

/-- An identifier character makes a cluster of its own. -/
theorem plain_of_isIdentifierChar (c : Char) (letter : isIdentifierChar c = true) :
    clusterClass c = .other :=
  identifierChar_cases (P := fun c => clusterClass c = .other) (by decide +kernel) c letter

theorem joins_eq_false (before c : Char) (letterBefore : isIdentifierChar before = true)
    (letter : isIdentifierChar c = true) : (ClusterEnd.start before).joins c = false := by
  have notLinked : (ClusterEnd.start before).conjunct ≠ .linked := by
    simp only [ClusterEnd.start]
    split <;> simp
  simp only [ClusterEnd.joins, ClusterEnd.start, plain_of_isIdentifierChar before letterBefore,
    plain_of_isIdentifierChar c letter] at notLinked ⊢
  simp [notLinked]

theorem clustersAfter_identifier (before : Char) (rest : List Char)
    (letterBefore : isIdentifierChar before = true)
    (letters : ∀ c ∈ rest, isIdentifierChar c = true) :
    clustersAfter (.start before) rest = ([], rest.map ([·])) := by
  induction rest generalizing before with
  | nil => rfl
  | cons c rest ih =>
    have letter := letters c List.mem_cons_self
    have tail := ih c letter fun d member => letters d (List.mem_cons_of_mem c member)
    simp only [clustersAfter, joins_eq_false before c letterBefore letter, Bool.false_eq_true,
      ↓reduceIte, tail, List.map_cons]

theorem clusters_identifier (name : List Char)
    (letters : ∀ c ∈ name, isIdentifierChar c = true) : clusters name = name.map ([·]) := by
  cases name with
  | nil => rfl
  | cons c rest =>
    have tail := clustersAfter_identifier c rest (letters c List.mem_cons_self)
      fun d member => letters d (List.mem_cons_of_mem c member)
    simp only [clusters, tail, List.map_cons]

end Clusters

namespace Casing

theorem flatten_extendFirst (cluster : List Char) (names : List (List Char)) :
    (extendFirst cluster names).flatten = cluster ++ names.flatten := by
  cases names <;> simp [extendFirst]

/-- The words of a name have all of its clusters but the separators. -/
theorem flatten_wordsOfClusters (parts : List (List Char)) :
    (wordsOfClusters parts).flatten = (parts.filter fun part => !isSeparator part).flatten := by
  induction parts with
  | nil => rfl
  | cons part rest ih =>
    simp only [wordsOfClusters]
    split
    · rename_i separator
      simp [separator, ih]
    · rename_i notSeparator
      split
      · simp [notSeparator, ih]
      · simp [notSeparator, ih, flatten_extendFirst]

theorem isSeparator_of_isIdentifierChar (c : Char) (letter : isIdentifierChar c = true) :
    isSeparator [c] = (c == '_') :=
  identifierChar_cases (P := fun c => isSeparator [c] = (c == '_')) (by decide +kernel) c letter

theorem flatten_nameWords (name : List Char)
    (letters : ∀ c ∈ name, isIdentifierChar c = true) :
    (nameWords name).flatten = name.filter (· != '_') := by
  have general : (wordsOfClusters (name.map ([·]))).flatten = name.filter (· != '_') := by
    rw [flatten_wordsOfClusters]
    induction name with
    | nil => rfl
    | cons c rest ih =>
      have tail := ih fun d member => letters d (List.mem_cons_of_mem c member)
      have separator := isSeparator_of_isIdentifierChar c (letters c List.mem_cons_self)
      rw [List.map_cons, List.filter_cons, separator, List.filter_cons]
      by_cases underscore : c = '_' <;> simp [underscore, tail]
  cases name with
  | nil => rfl
  | cons c rest =>
    have whole : nameWords (c :: rest) = wordsOfClusters (clusters (c :: rest)) := rfl
    rw [whole, clusters_identifier _ letters, general]

theorem lowerOf_ascii (c : Char) (small : c.toNat < 128) : lowerOf c = [c.toLower] := by
  simp [lowerOf, small]

theorem lowercaseAfter_ascii (before word : List Char) (small : ∀ c ∈ word, c.toNat < 128) :
    lowercaseAfter before word = word.map Char.toLower := by
  induction word generalizing before with
  | nil => rfl
  | cons c rest ih =>
    have head := small c List.mem_cons_self
    have notSigma : c ≠ 'Σ' := by
      rintro rfl
      exact absurd head (by decide)
    rw [lowercaseAfter, ih _ fun d member => small d (List.mem_cons_of_mem c member)]
    simp [notSigma, lowerOf_ascii c head]

theorem capitalize_ascii (word : List Char) (small : ∀ c ∈ word, c.toNat < 128) :
    capitalize word = (word.take 1).map Char.toUpper ++ (word.drop 1).map Char.toLower := by
  cases word with
  | nil => rfl
  | cons c rest =>
    have head := small c List.mem_cons_self
    have tail := lowercaseAfter_ascii [] rest fun d member =>
      small d (List.mem_cons_of_mem c member)
    simp [capitalize, upperOf, head, lowercase, tail]

/-- In either case style a word of identifier characters keeps its length and its kind. -/
theorem letters_of_mem_cased (word : List Char)
    (letters : ∀ c ∈ word, isIdentifierChar c = true) :
    (∀ c ∈ lowercase word, isIdentifierChar c = true) ∧
      (∀ c ∈ capitalize word, isIdentifierChar c = true) ∧
      (lowercase word = [] ↔ word = []) ∧ (capitalize word = [] ↔ word = []) := by
  have small : ∀ c ∈ word, c.toNat < 128 :=
    fun c member => toNat_lt_of_isIdentifierChar c (letters c member)
  rw [lowercase, lowercaseAfter_ascii [] word small, capitalize_ascii word small]
  refine ⟨?_, ?_, by simp, ?_⟩
  · intro c member
    obtain ⟨d, inside, rfl⟩ := List.mem_map.1 member
    exact isIdentifierChar_toLower d (letters d inside)
  · intro c member
    rcases List.mem_append.1 member with first | later
    · obtain ⟨d, inside, rfl⟩ := List.mem_map.1 first
      exact isIdentifierChar_toUpper d (letters d (List.mem_of_mem_take inside))
    · obtain ⟨d, inside, rfl⟩ := List.mem_map.1 later
      exact isIdentifierChar_toLower d (letters d (List.mem_of_mem_drop inside))
  · cases word <;> simp

theorem letters_of_mem_nameWords (name : List Char)
    (letters : ∀ c ∈ name, isIdentifierChar c = true) :
    ∀ word ∈ nameWords name, ∀ c ∈ word, isIdentifierChar c = true := by
  intro word member c inside
  have found : c ∈ (nameWords name).flatten := List.mem_flatten.2 ⟨word, member, inside⟩
  rw [flatten_nameWords name letters] at found
  exact letters c (List.mem_filter.1 found).1

/-- The `camelCase` form of an identifier has identifier characters only. -/
theorem letters_of_mem_camelChars (name : List Char)
    (letters : ∀ c ∈ name, isIdentifierChar c = true) :
    ∀ c ∈ camelChars name, isIdentifierChar c = true := by
  have known := letters_of_mem_nameWords name letters
  intro c member
  unfold camelChars at member
  cases parts : nameWords name with
  | nil => simp [parts] at member
  | cons first rest =>
    rw [parts] at member known
    rcases List.mem_append.1 member with head | later
    · exact (letters_of_mem_cased first (known first List.mem_cons_self)).1 c head
    · obtain ⟨word, among, inside⟩ := List.mem_flatMap.1 later
      exact (letters_of_mem_cased word (known word (List.mem_cons_of_mem _ among))).2.1 c inside

/-- The `camelCase` form of an identifier is empty if there is nothing but underscores. -/
theorem camelChars_eq_nil_iff (name : List Char)
    (letters : ∀ c ∈ name, isIdentifierChar c = true) :
    camelChars name = [] ↔ ∀ c ∈ name, c = '_' := by
  have known := letters_of_mem_nameWords name letters
  have words : camelChars name = [] ↔ ∀ word ∈ nameWords name, word = [] := by
    unfold camelChars
    cases parts : nameWords name with
    | nil => simp
    | cons first rest =>
      rw [parts] at known
      have head := (letters_of_mem_cased first (known first List.mem_cons_self)).2.2.1
      have tail : ∀ word ∈ rest, (capitalize word = [] ↔ word = []) := fun word among =>
        (letters_of_mem_cased word (known word (List.mem_cons_of_mem _ among))).2.2.2
      simp only [List.append_eq_nil_iff, head, List.flatMap_eq_nil_iff, List.forall_mem_cons]
      exact and_congr_right fun _ => forall₂_congr tail
  rw [words, ← List.flatten_eq_nil_iff, flatten_nameWords name letters, List.filter_eq_nil_iff]
  simp

end Casing

end DataAccess
