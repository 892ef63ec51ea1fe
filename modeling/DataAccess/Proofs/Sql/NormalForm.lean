import DataAccess.Proofs.Sql.Layout
import Mathlib.Data.List.Chain

/-!
Texts in normal form. Normalizing a text gives a tidy text, and of the tidy texts it gives the only
one that reads like the text it was given. So normalizing is a projection, and the tidy texts, which
are also told by the layout that they do without, are the texts that it leaves alone.
-/
set_option autoImplicit false

namespace DataAccess.Sql

open Text

/-- Blanks stand alone. -/
def Single (c d : Char) : Prop :=
  ¬ (isBlank c = true ∧ isBlank d = true)

/-- Blanks stand alone and not after an opening parenthesis. -/
def OpenTight (c d : Char) : Prop :=
  Single c d ∧ ¬ (c = '(' ∧ d = ' ')

/-- Blanks stand alone and not inside of a parenthesis. -/
def Tight (c d : Char) : Prop :=
  OpenTight c d ∧ ¬ (c = ' ' ∧ d = ')')

/-- A text whose blanks are spaces between other characters, and whose neighbours fit. -/
structure Laid (fits : Char → Char → Prop) (text : List Char) : Prop where
  starts : ∀ c ∈ text.head?, isBlank c = false
  ends : ∀ c ∈ text.getLast?, isBlank c = false
  spaces : ∀ c ∈ text, isBlank c = true → c = ' '
  chain : text.IsChain fits

/-- A text in normal form. -/
abbrev IsTidy (text : List Char) : Prop := Laid Tight text

/-- Two texts that follow each other directly. -/
theorem Laid.append {fits : Char → Char → Prop} {first second : List Char}
    (before : Laid fits first) (after : Laid fits second)
    (seam : ∀ c ∈ first.getLast?, ∀ d ∈ second.head?, fits c d) :
    Laid fits (first ++ second) where
  starts := by
    intro c head
    cases first with
    | nil => exact after.starts c head
    | cons d rest => exact before.starts c head
  ends := by
    intro c last
    rw [List.getLast?_append, Option.mem_def, Option.or_eq_some_iff] at last
    rcases last with last | ⟨-, last⟩
    · exact after.ends c last
    · exact before.ends c last
  spaces := by
    intro c member
    exact (List.mem_append.1 member).elim (before.spaces c) (after.spaces c)
  chain := List.isChain_append.2 ⟨before.chain, after.chain, seam⟩

/-- Two texts with a space between them. -/
theorem Laid.space {fits : Char → Char → Prop} {first second : List Char}
    (before : Laid fits first) (after : Laid fits second) (filled : first ≠ [])
    (filledAfter : second ≠ []) (seamBefore : ∀ c ∈ first.getLast?, fits c ' ')
    (seamAfter : ∀ d ∈ second.head?, fits ' ' d) : Laid fits (first ++ ' ' :: second) where
  starts := by
    rw [List.head?_append_of_ne_nil first filled]
    exact before.starts
  ends := by
    intro c last
    obtain ⟨d, rest, rfl⟩ := List.exists_cons_of_ne_nil filledAfter
    rw [List.getLast?_append_cons, List.getLast?_cons_cons] at last
    exact after.ends c last
  spaces := by
    intro c member blank
    rcases List.mem_append.1 member with old | new
    · exact before.spaces c old blank
    · rcases List.mem_cons.1 new with same | later
      · exact same
      · exact after.spaces c later blank
  chain := by
    refine List.isChain_append.2 ⟨before.chain, after.chain.cons seamAfter, ?_⟩
    intro c last d head
    simp only [List.head?_cons, Option.mem_def, Option.some.injEq] at head
    exact head ▸ seamBefore c last

theorem laid_nil (fits : Char → Char → Prop) : Laid fits [] where
  starts := by simp
  ends := by simp
  spaces := by simp
  chain := .nil

theorem ne_space_of_solid (c : Char) (solid : isBlank c = false) : c ≠ ' ' := by
  rintro rfl
  rw [isBlank_space] at solid
  cases solid

/-- Any two characters of which neither is blank may stand side by side. -/
theorem tight_of_solid (c d : Char) (before : isBlank c = false) (after : isBlank d = false) :
    Tight c d := by
  refine ⟨⟨?_, ?_⟩, ?_⟩
  · simp [Single, before]
  · rintro ⟨-, space⟩
    exact ne_space_of_solid d after space
  · rintro ⟨space, -⟩
    exact ne_space_of_solid c before space

/-- Tidy texts that follow each other directly. -/
theorem IsTidy.append {first second : List Char} (before : IsTidy first) (after : IsTidy second) :
    IsTidy (first ++ second) :=
  Laid.append before after fun c last d head =>
    tight_of_solid c d (before.ends c last) (after.starts d head)

theorem isTidy_of_solid (text : List Char) (solid : ∀ c ∈ text, isBlank c = false) :
    IsTidy text := by
  induction text with
  | nil => exact laid_nil Tight
  | cons c rest ih =>
    have outside := solid c List.mem_cons_self
    have head : IsTidy [c] := by
      refine ⟨by simpa using outside, by simpa using outside, ?_, .singleton c⟩
      intro d member blank
      rw [List.mem_singleton.1 member, outside] at blank
      cases blank
    exact head.append (ih fun d member => solid d (List.mem_cons_of_mem c member))

/-- The words of a text with single spaces between them. -/
theorem laid_intercalate (items : List (List Char))
    (solid : ∀ item ∈ items, item ≠ [] ∧ ∀ c ∈ item, isBlank c = false) :
    Laid Single ([' '].intercalate items) := by
  induction items with
  | nil => exact laid_nil Single
  | cons item rest ih =>
    obtain ⟨filled, whole⟩ := solid item List.mem_cons_self
    have tidy := isTidy_of_solid item whole
    have first : Laid Single item :=
      ⟨tidy.starts, tidy.ends, tidy.spaces, tidy.chain.imp fun _ _ fits => fits.1.1⟩
    have tail := ih fun other member => solid other (List.mem_cons_of_mem item member)
    cases rest with
    | nil => simpa using first
    | cons next rest =>
      have split : [' '].intercalate (item :: next :: rest) =
          item ++ ' ' :: [' '].intercalate (next :: rest) := by simp
      obtain ⟨filledNext, -⟩ := solid next (by simp)
      have filledTail : [' '].intercalate (next :: rest) ≠ [] := by
        cases rest <;> simp [filledNext]
      rw [split]
      refine first.space tail filled filledTail ?_ ?_
      · intro c last
        simp [Single, first.ends c last]
      · intro d head
        simp [Single, tail.starts d head]

section Tightening

theorem mem_of_mem_tightenOpen (c : Char) (text : List Char) (member : c ∈ tightenOpen text) :
    c ∈ text := by
  induction text using tightenOpen.induct with
  | case1 => exact member
  | case2 rest ih =>
    rw [tightenOpen, List.mem_cons] at member
    rcases member with rfl | later
    · exact List.mem_cons_self
    · exact List.mem_cons_of_mem _ (List.mem_cons_of_mem _ (ih later))
  | case3 d rest other ih =>
    rw [tightenOpen.eq_3 d rest other, List.mem_cons] at member
    rcases member with rfl | later
    · exact List.mem_cons_self
    · exact List.mem_cons_of_mem _ (ih later)

theorem mem_of_mem_tightenClose (c : Char) (text : List Char) (member : c ∈ tightenClose text) :
    c ∈ text := by
  induction text using tightenClose.induct with
  | case1 => exact member
  | case2 rest ih =>
    rw [tightenClose, List.mem_cons] at member
    rcases member with rfl | later
    · simp
    · exact List.mem_cons_of_mem _ (List.mem_cons_of_mem _ (ih later))
  | case3 d rest other ih =>
    rw [tightenClose.eq_3 d rest other, List.mem_cons] at member
    rcases member with rfl | later
    · exact List.mem_cons_self
    · exact List.mem_cons_of_mem _ (ih later)

theorem head?_tightenOpen (text : List Char) : (tightenOpen text).head? = text.head? := by
  cases text using tightenOpen.fun_cases_unfolding with
  | case1 => rfl
  | case2 rest => rfl
  | case3 c rest other => rfl

/-- Ends are kept, since only a blank is ever dropped. -/
theorem getLast?_tightenOpen (text : List Char)
    (ends : ∀ c ∈ text.getLast?, isBlank c = false) :
    (tightenOpen text).getLast? = text.getLast? := by
  induction text using tightenOpen.induct with
  | case1 => rfl
  | case2 rest ih =>
    cases rest with
    | nil => simp [isBlank_space] at ends
    | cons d rest =>
      have tail := ih (by simpa using ends)
      simp [tightenOpen, List.getLast?_cons, tail]
  | case3 c rest other ih =>
    rw [tightenOpen.eq_3 c rest other, List.getLast?_cons, List.getLast?_cons]
    cases rest with
    | nil => rfl
    | cons d rest => rw [ih (by simpa using ends)]

theorem getLast?_tightenClose (text : List Char) :
    (tightenClose text).getLast? = text.getLast? := by
  induction text using tightenClose.induct with
  | case1 => rfl
  | case2 rest ih =>
    rw [tightenClose, List.getLast?_cons, ih, List.getLast?_cons, List.getLast?_cons]
    rfl
  | case3 c rest other ih =>
    rw [tightenClose.eq_3 c rest other, List.getLast?_cons, List.getLast?_cons, ih]

theorem isChain_tightenOpen (text : List Char) (chain : text.IsChain Single) :
    (tightenOpen text).IsChain OpenTight := by
  induction text using tightenOpen.induct with
  | case1 => exact .nil
  | case2 rest ih =>
    have afterSpace := List.isChain_cons.1 (List.isChain_cons.1 chain).2
    rw [tightenOpen]
    refine (ih afterSpace.2).cons ?_
    intro d head
    rw [head?_tightenOpen] at head
    have solid : isBlank d = false := by simpa [Single, isBlank_space] using afterSpace.1 d head
    exact (tight_of_solid '(' d (by decide) solid).1
  | case3 c rest other ih =>
    obtain ⟨head, tail⟩ := List.isChain_cons.1 chain
    rw [tightenOpen.eq_3 c rest other]
    refine (ih tail).cons ?_
    intro d first
    rw [head?_tightenOpen] at first
    refine ⟨head d first, ?_⟩
    rintro ⟨rfl, rfl⟩
    cases rest with
    | nil => cases first
    | cons e rest =>
      cases first
      exact other rest rfl rfl

/-- What a tightened text starts with: a space may have gone before a closing parenthesis. -/
theorem head?_tightenClose (text : List Char) (c : Char)
    (head : c ∈ (tightenClose text).head?) :
    c ∈ text.head? ∨ c = ')' ∧ ' ' ∈ text.head? := by
  cases text using tightenClose.fun_cases with
  | case1 => exact .inl head
  | case2 rest =>
    simp only [tightenClose, List.head?_cons, Option.mem_def, Option.some.injEq] at head
    exact .inr ⟨head.symm, rfl⟩
  | case3 d rest other =>
    rw [tightenClose.eq_3 d rest other] at head
    exact .inl head

theorem isChain_tightenClose (text : List Char) (chain : text.IsChain OpenTight) :
    (tightenClose text).IsChain Tight := by
  induction text using tightenClose.induct with
  | case1 => exact .nil
  | case2 rest ih =>
    obtain ⟨head, tail⟩ := List.isChain_cons.1 (List.isChain_cons.1 chain).2
    rw [tightenClose]
    refine (ih tail).cons ?_
    intro d first
    rcases head?_tightenClose rest d first with kept | ⟨rfl, -⟩
    · refine ⟨head d kept, ?_⟩
      rintro ⟨impossible, -⟩
      cases impossible
    · exact tight_of_solid ')' ')' (by decide) (by decide)
  | case3 c rest other ih =>
    obtain ⟨head, tail⟩ := List.isChain_cons.1 chain
    rw [tightenClose.eq_3 c rest other]
    refine (ih tail).cons ?_
    intro d first
    rcases head?_tightenClose rest d first with kept | ⟨rfl, space⟩
    · refine ⟨head d kept, ?_⟩
      rintro ⟨rfl, rfl⟩
      cases rest with
      | nil => cases kept
      | cons e rest =>
        cases kept
        exact other rest rfl rfl
    · have solid : isBlank c = false := by
        simpa [Single, isBlank_space] using (head ' ' space).1
      exact tight_of_solid c ')' solid (by decide)

end Tightening

/-- Normalizing gives a text in normal form. -/
theorem isTidy_normalizeChars (text : List Char) : IsTidy (normalizeChars text) := by
  have spaced := laid_intercalate (words text) (solid_of_mem_words text)
  have last := getLast?_tightenOpen _ spaced.ends
  have opened : Laid OpenTight (tightenOpen ([' '].intercalate (words text))) := by
    refine ⟨?_, ?_, ?_, isChain_tightenOpen _ spaced.chain⟩
    · rw [head?_tightenOpen]
      exact spaced.starts
    · rw [last]
      exact spaced.ends
    · intro c member
      exact spaced.spaces c (mem_of_mem_tightenOpen c _ member)
  refine ⟨?_, ?_, ?_, isChain_tightenClose _ opened.chain⟩
  · intro c head
    rcases head?_tightenClose _ c head with kept | ⟨rfl, -⟩
    · exact opened.starts c kept
    · decide
  · rw [normalizeChars, getLast?_tightenClose]
    exact opened.ends
  · intro c member
    exact opened.spaces c (mem_of_mem_tightenClose c _ member)

section Joints

/-- The characters of a text other than blanks, each with whether it adheres to the character
before it whatever the layout. -/
def joints : (before : Option Char) → List Char → List (Bool × Char)
  | _, [] => []
  | before, c :: rest =>
    if isBlank c then joints none rest
    else (before.any (· != '(') && c != ')', c) :: joints (some c) rest

/-- The tidy text with these characters. -/
def rejoin : (before : Option Char) → List (Bool × Char) → List Char
  | _, [] => []
  | before, (adheres, c) :: rest =>
    if adheres || before.isNone || before == some '(' || c == ')' then
      c :: rejoin (some c) rest
    else ' ' :: c :: rejoin (some c) rest

theorem joints_append_blank (before : Option Char) (first second : List Char) (c : Char)
    (blank : isBlank c = true) :
    joints before (first ++ c :: second) = joints before first ++ joints none second := by
  induction first generalizing before with
  | nil => simp [joints, blank]
  | cons d rest ih =>
    simp only [List.cons_append, joints, ih]
    split <;> rfl

theorem joints_append_opening (before : Option Char) (first second : List Char) :
    joints before (first ++ '(' :: second) =
      joints before (first ++ ['(']) ++ joints none second := by
  have fresh : joints (some '(') second = joints none second := by
    cases second <;> simp [joints]
  have solid : isBlank '(' = false := by decide
  induction first generalizing before with
  | nil => simp [joints, solid, fresh]
  | cons d rest ih =>
    simp only [List.cons_append, joints, ih]
    split <;> rfl

theorem joints_append_closing (before : Option Char) (first second : List Char) :
    joints before (first ++ ')' :: second) =
      joints before first ++ joints none (')' :: second) := by
  have solid : isBlank ')' = false := by decide
  induction first generalizing before with
  | nil => simp [joints, solid]
  | cons d rest ih =>
    simp only [List.cons_append, joints, ih]
    split <;> rfl

theorem joints_ignoresLayout : IgnoresLayout (joints none) where
  nil := rfl
  blank before after c blank := joints_append_blank none before after c blank
  opening before after := joints_append_opening none before after
  closing before after := joints_append_closing none before after

/-- A tidy text can be told from its joints. -/
theorem rejoin_joints (before : Option Char) (text : List Char)
    (starts : before = none → ∀ c ∈ text.head?, isBlank c = false)
    (ends : ∀ c ∈ text.getLast?, isBlank c = false)
    (spaces : ∀ c ∈ text, isBlank c = true → c = ' ')
    (chain : (before.toList ++ text).IsChain Tight) :
    rejoin before (joints before text) = text := by
  induction text generalizing before with
  | nil => rfl
  | cons c rest ih =>
    have ends' : ∀ d ∈ rest.getLast?, isBlank d = false := by
      intro d last
      cases rest with
      | nil => cases last
      | cons e rest => exact ends d (by simpa using last)
    have spaces' := fun d member => spaces d (List.mem_cons_of_mem c member)
    have tail : (c :: rest).IsChain Tight := chain.right_of_append
    by_cases blank : isBlank c = true
    · obtain rfl := spaces c List.mem_cons_self blank
      cases rest with
      | nil => simp [isBlank_space] at ends
      | cons d rest =>
        obtain ⟨seam, chain'⟩ := List.isChain_cons_cons.1 tail
        have solid : isBlank d = false := by simpa [Single, isBlank_space] using seam.1.1
        have notClosing : d ≠ ')' := fun same => seam.2 ⟨rfl, same⟩
        -- after a blank the rest is put together as if it stood alone
        have alone := ih none (by simpa using solid) ends' spaces' (by simpa using chain')
        cases before with
        | none => simp [isBlank_space] at starts
        | some p =>
          have notOpening : p ≠ '(' :=
            fun same => (List.isChain_cons_cons.1 chain).1.1.2 ⟨same, rfl⟩
          simpa [joints, rejoin, isBlank_space, solid, notClosing, notOpening] using alone
    · have solid : isBlank c = false := by simpa using blank
      have later := ih (some c) (by simp) ends' spaces' (by simpa using tail)
      have adheres : ((before.any (· != '(') && c != ')') || before.isNone ||
          before == some '(' || c == ')') = true := by
        cases before with
        | none => simp
        | some p => by_cases closing : c = ')' <;> by_cases opening : p = '(' <;> simp [*]
      simp only [joints, solid, Bool.false_eq_true, ↓reduceIte, rejoin, adheres, later]

/-- Of the texts that read the same, only one is tidy. -/
theorem IsTidy.eq_of_joints {first second : List Char} (tidy : IsTidy first)
    (other : IsTidy second) (same : joints none first = joints none second) : first = second := by
  rw [← rejoin_joints none first (fun _ => tidy.starts) tidy.ends tidy.spaces tidy.chain, same,
    rejoin_joints none second (fun _ => other.starts) other.ends other.spaces other.chain]

end Joints

/-- Normalizing gives the one tidy text that reads like the text it was given. -/
theorem eq_normalizeChars_iff (text other : List Char) :
    other = normalizeChars text ↔ IsTidy other ∧ joints none other = joints none text := by
  have kept : joints none (normalizeChars text) = joints none text :=
    joints_ignoresLayout.normalizeChars text
  constructor
  · rintro rfl
    exact ⟨isTidy_normalizeChars text, kept⟩
  · rintro ⟨tidy, same⟩
    exact tidy.eq_of_joints (isTidy_normalizeChars text) (same.trans kept.symm)

/-- Texts that read the same have one normal form. -/
theorem normalizeChars_congr (first second : List Char)
    (same : joints none first = joints none second) :
    normalizeChars first = normalizeChars second := by
  obtain ⟨tidy, kept⟩ := (eq_normalizeChars_iff first _).1 rfl
  exact (eq_normalizeChars_iff second _).2 ⟨tidy, kept.trans same⟩

/-- A text in normal form is its own normal form. -/
theorem normalizeChars_of_isTidy (text : List Char) (tidy : IsTidy text) :
    normalizeChars text = text :=
  ((eq_normalizeChars_iff text text).2 ⟨tidy, rfl⟩).symm

/-- A text in normal form, told by the layout that does not occur in it. -/
structure IsNormal (text : List Char) : Prop where
  spaces : ∀ c ∈ text, isBlank c = true → c = ' '
  leading : ¬ [' '] <+: text
  trailing : ¬ [' '] <:+ text
  doubled : ¬ [' ', ' '] <:+: text
  opening : ¬ ['(', ' '] <:+: text
  closing : ¬ [' ', ')'] <:+: text

section Normal

variable {text : List Char}

/-- A character of a text in normal form is a space or not blank. -/
theorem IsNormal.solid_of_ne_space (normal : IsNormal text) (c : Char) (member : c ∈ text)
    (other : c ≠ ' ') : isBlank c = false := by
  rw [Bool.eq_false_iff]
  intro blank
  exact other (normal.spaces c member blank)

theorem IsNormal.isTidy (normal : IsNormal text) : IsTidy text where
  starts := by
    intro c head
    obtain ⟨rest, rfl⟩ := List.head?_eq_some_iff.1 head
    apply normal.solid_of_ne_space c List.mem_cons_self
    rintro rfl
    exact normal.leading ⟨rest, rfl⟩
  ends := by
    intro c last
    obtain ⟨before, rfl⟩ := List.getLast?_eq_some_iff.1 last
    apply normal.solid_of_ne_space c (by simp)
    rintro rfl
    exact normal.trailing ⟨before, rfl⟩
  spaces := normal.spaces
  chain := by
    refine (List.isChain_isInfix text).imp ?_
    intro c d inside
    refine ⟨⟨?_, ?_⟩, ?_⟩
    · rintro ⟨blankBefore, blankAfter⟩
      obtain rfl := normal.spaces c (inside.subset (by simp)) blankBefore
      obtain rfl := normal.spaces d (inside.subset (by simp)) blankAfter
      exact normal.doubled inside
    · rintro ⟨rfl, rfl⟩
      exact normal.opening inside
    · rintro ⟨rfl, rfl⟩
      exact normal.closing inside

/-- Characters that stand side by side in a tidy text fit. -/
theorem IsTidy.tight_of_infix (tidy : IsTidy text) (c d : Char) (inside : [c, d] <:+: text) :
    Tight c d := by
  have pair : [c, d].IsChain Tight := List.IsChain.infix tidy.chain inside
  exact List.isChain_pair.1 pair

theorem IsTidy.isNormal (tidy : IsTidy text) : IsNormal text where
  spaces := tidy.spaces
  leading := by
    rintro ⟨rest, rfl⟩
    exact ne_space_of_solid ' ' (tidy.starts ' ' rfl) rfl
  trailing := by
    rintro ⟨before, rfl⟩
    exact ne_space_of_solid ' ' (tidy.ends ' ' (by simp)) rfl
  doubled inside :=
    (tidy.tight_of_infix ' ' ' ' inside).1.1 ⟨isBlank_space, isBlank_space⟩
  opening inside := (tidy.tight_of_infix '(' ' ' inside).1.2 ⟨rfl, rfl⟩
  closing inside := (tidy.tight_of_infix ' ' ')' inside).2 ⟨rfl, rfl⟩

end Normal

/-- The characters of a text other than blanks can be read whatever its layout. -/
theorem solids_ignoresLayout : IgnoresLayout (List.filter fun c => !isBlank c) where
  nil := rfl
  blank before after c blank := by simp [blank]
  opening before after := by
    have solid : isBlank '(' = false := by decide
    simp [solid]
  closing before after := by simp

theorem isNormal_normalize (text : String) : IsNormal (normalize text).toList := by
  rw [normalize, String.toList_ofList]
  exact (isTidy_normalizeChars text.toList).isNormal

/-- The texts in normal form are those that normalizing leaves alone. -/
theorem normalize_eq_self_iff (text : String) :
    normalize text = text ↔ IsNormal text.toList := by
  constructor
  · intro same
    exact same ▸ isNormal_normalize text
  · intro normal
    rw [normalize, normalizeChars_of_isTidy text.toList normal.isTidy, String.ofList_toList]

/-- Normalizing is a projection onto the texts in normal form, and only white space is lost. -/
theorem normalize_projects (text : String) :
    (normalize text).toList.filter (fun c => !isBlank c) =
        text.toList.filter (fun c => !isBlank c) ∧
      IsNormal (normalize text).toList ∧
      (normalize text = text ↔ IsNormal text.toList) ∧
      normalize (normalize text) = normalize text := by
  have normal := isNormal_normalize text
  exact ⟨solids_ignoresLayout.normalize text, normal, normalize_eq_self_iff text,
    (normalize_eq_self_iff (normalize text)).2 normal⟩

/-- Parentheses that enclose each other are all tightened at once. -/
example : normalize "in\t( ( 1 ,  2 ) ( ) ) " = "in ((1 , 2) ())" := by decide +kernel

end DataAccess.Sql
