import DataAccess.Proofs.Sql.Placeholders
import DataAccess.Proofs.Text.Readers
import Mathlib.Data.List.SplitBy
import Mathlib.Data.List.TakeWhile

/-!
What the scan for placeholders recognises. A text falls into runs of sigils, runs of identifier
characters and runs of other ones. Sigils pair up from the left, so a run of identifier characters
is the name of a placeholder if the run before it is an odd number of sigils.

The scan can also be described token by token, for every sigil. There are four shapes of tokens,
of which the first one that fits is read; one of them fits as long as there is text, and it takes
at least a character, so the tokens of a text are all of it.
-/
set_option autoImplicit false

namespace DataAccess.Sql

open Text

/-- What is read of a text: a placeholder, or something that is none. -/
inductive Token where
  | marker (name : List Char)
  | text
deriving DecidableEq

namespace Token

def name? : Token → Option (List Char)
  | marker name => some name
  | text => none

/-- A token and the text behind it. -/
abbrev Read := Option (Token × List Char)

variable (sigil : Char)

/-- A doubled sigil, with the identifier behind it if there is one. -/
def system? : List Char → Read
  | c :: d :: rest =>
    if c = sigil ∧ d = sigil then some (text, rest.dropWhile isIdentChar) else none
  | _ => none

/-- A sigil and the identifier behind it. -/
def marker? : List Char → Read
  | c :: rest =>
    if c = sigil ∧ rest.takeWhile isIdentChar ≠ [] then
      some (marker (rest.takeWhile isIdentChar), rest.dropWhile isIdentChar)
    else none
  | [] => none

/-- Text up to the next sigil. -/
def plain? (given : List Char) : Read :=
  if given.takeWhile (· != sigil) ≠ [] then some (text, given.dropWhile (· != sigil)) else none

/-- Any character. -/
def any? : List Char → Read
  | _ :: rest => some (text, rest)
  | [] => none

/-- The first shape that fits. -/
def read? (given : List Char) : Read :=
  system? sigil given <|> marker? sigil given <|> plain? sigil given <|> any? given

end Token

section Tokens

variable {sigil : Char} {given rest : List Char} {token : Token}

/-- What a token is to the scan: it takes text, gives out its name and is done. -/
structure Advances (sigil : Char) (given : List Char) (token : Token) (rest : List Char) : Prop where
  shorter : rest.length < given.length
  scanned :
    scanMarkers sigil .text given = token.name?.toList ++ scanMarkers sigil .text rest

theorem scanMarkers_system_append (part rest : List Char)
    (letters : ∀ c ∈ part, isIdentChar c = true) :
    scanMarkers sigil .system (part ++ rest) = scanMarkers sigil .system rest := by
  induction part with
  | nil => rfl
  | cons c later ih =>
    have tail := ih fun d member => letters d (List.mem_cons_of_mem c member)
    simp only [List.cons_append, scanMarkers, letters c List.mem_cons_self, ↓reduceIte, tail]

/-- Where no identifier goes on, the scan of what has been read is over. -/
theorem scanMarkers_of_head (state : MarkerScan) (rest : List Char)
    (ended : ∀ c ∈ rest.head?, isIdentChar c = false) (notOpened : state ≠ .opened) :
    scanMarkers sigil state rest = state.pending ++ scanMarkers sigil .text rest := by
  cases rest with
  | nil =>
    rw [scanMarkers_nil, scanMarkers_nil]
    simp [MarkerScan.pending]
  | cons c later =>
    have outside : isIdentChar c = false := ended c rfl
    cases state with
    | text => rfl
    | opened => exact absurd rfl notOpened
    | system => simp [scanMarkers, MarkerScan.pending, outside]
    | name read => simp [scanMarkers, MarkerScan.pending, outside]

theorem scanMarkers_opened_of_head (rest : List Char)
    (ended : ∀ c ∈ rest.head?, isIdentChar c = false ∧ c ≠ sigil) :
    scanMarkers sigil .opened rest = scanMarkers sigil .text rest := by
  cases rest with
  | nil => rfl
  | cons c later =>
    obtain ⟨outside, different⟩ := ended c rfl
    simp [scanMarkers, outside, different]

/-- Behind an opening sigil a name is read to its end. -/
theorem scanMarkers_opened_append (c : Char) (name rest : List Char) (different : c ≠ sigil)
    (letters : ∀ d ∈ c :: name, isIdentChar d = true)
    (ended : ∀ d ∈ rest.head?, isIdentChar d = false) :
    scanMarkers sigil .opened (c :: name ++ rest) =
      (c :: name) :: scanMarkers sigil .text rest := by
  obtain ⟨letter, tail⟩ := List.forall_mem_cons.1 letters
  rw [List.cons_append, scanMarkers_cons]
  simp only [MarkerScan.next, different, letter, ↓reduceIte, MarkerScan.ended, List.nil_append]
  rw [scanMarkers_name_append [c] name rest tail, scanMarkers_of_head _ rest ended (by simp)]
  rfl

theorem advances_of_system? (read : Token.system? sigil given = some (token, rest)) :
    Advances sigil given token rest := by
  match given, read with
  | c :: d :: behind, read =>
    simp only [Token.system?, Option.ite_none_right_eq_some, Option.some.injEq,
      Prod.mk.injEq] at read
    obtain ⟨⟨rfl, rfl⟩, rfl, rfl⟩ := read
    have parts := List.takeWhile_append_dropWhile (p := isIdentChar) (l := behind)
    have shorter := (List.dropWhile_suffix (p := isIdentChar) (l := behind)).length_le
    refine ⟨by simp only [List.length_cons]; omega, ?_⟩
    have opened : scanMarkers d .text (d :: d :: behind) = scanMarkers d .system behind := by
      simp [scanMarkers]
    conv_lhs => rw [opened, ← parts]
    rw [scanMarkers_system_append _ _ fun d member => List.mem_takeWhile_imp member,
      scanMarkers_of_head .system _ (head?_dropWhile _ behind) (by simp)]
    rfl

theorem advances_of_marker? (single : Token.system? sigil given = none)
    (read : Token.marker? sigil given = some (token, rest)) : Advances sigil given token rest := by
  match given, read with
  | c :: behind, read =>
    simp only [Token.marker?, Option.ite_none_right_eq_some, Option.some.injEq,
      Prod.mk.injEq] at read
    obtain ⟨⟨rfl, filled⟩, rfl, rfl⟩ := read
    have parts := List.takeWhile_append_dropWhile (p := isIdentChar) (l := behind)
    have shorter := (List.dropWhile_suffix (p := isIdentChar) (l := behind)).length_le
    refine ⟨by simp only [List.length_cons]; omega, ?_⟩
    have letters : ∀ d ∈ behind.takeWhile isIdentChar, isIdentChar d = true :=
      fun d member => List.mem_takeWhile_imp member
    have ended := head?_dropWhile isIdentChar behind
    have opened : scanMarkers c .text (c :: behind) = scanMarkers c .opened behind := by
      simp [scanMarkers]
    cases name : behind.takeWhile isIdentChar with
    | nil => exact absurd name filled
    | cons d later =>
      rw [name] at parts letters
      -- A second sigil would have been read as a system variable.
      have different : d ≠ c := by
        rintro rfl
        rw [← parts] at single
        simp [Token.system?] at single
      conv_lhs => rw [opened, ← parts]
      rw [scanMarkers_opened_append d later _ different letters ended]
      rfl

theorem advances_of_plain? (read : Token.plain? sigil given = some (token, rest)) :
    Advances sigil given token rest := by
  simp only [Token.plain?, Option.ite_none_right_eq_some, Option.some.injEq, Prod.mk.injEq] at read
  obtain ⟨filled, rfl, rfl⟩ := read
  have parts := List.takeWhile_append_dropWhile (p := (· != sigil)) (l := given)
  have absent : sigil ∉ given.takeWhile (· != sigil) := by
    intro inside
    have different := List.mem_takeWhile_imp inside
    simp at different
  refine ⟨?_, ?_⟩
  · have lengths := congrArg List.length parts
    have some := List.length_pos_of_ne_nil filled
    rw [List.length_append] at lengths
    omega
  · conv_lhs => rw [← parts]
    rw [scanMarkers_text_append _ _ absent]
    rfl

theorem advances_of_any? (single : Token.system? sigil given = none)
    (unnamed : Token.marker? sigil given = none) (opened : Token.plain? sigil given = none)
    (read : Token.any? given = some (token, rest)) : Advances sigil given token rest := by
  match given, read with
  | c :: behind, read =>
    simp only [Token.any?, Option.some.injEq, Prod.mk.injEq] at read
    obtain ⟨rfl, rfl⟩ := read
    obtain rfl : c = sigil := by
      by_contra different
      simp [Token.plain?, different] at opened
    refine ⟨by simp, ?_⟩
    have ended : ∀ d ∈ behind.head?, isIdentChar d = false ∧ d ≠ c := by
      intro d first
      obtain ⟨later, rfl⟩ := List.head?_eq_some_iff.1 first
      constructor
      · simpa [Token.marker?, List.takeWhile_cons] using unnamed
      · rintro rfl
        simp [Token.system?] at single
    have scanned : scanMarkers c .text (c :: behind) = scanMarkers c .opened behind := by
      simp [scanMarkers]
    rw [scanned, scanMarkers_opened_of_head behind ended]
    rfl

theorem advances_of_read? (read : Token.read? sigil given = some (token, rest)) :
    Advances sigil given token rest := by
  unfold Token.read? at read
  cases system : Token.system? sigil given with
  | some found =>
    rw [system] at read
    exact advances_of_system? (system.trans read)
  | none =>
    cases marker : Token.marker? sigil given with
    | some found =>
      rw [system, marker] at read
      exact advances_of_marker? system (marker.trans read)
    | none =>
      cases plain : Token.plain? sigil given with
      | some found =>
        rw [system, marker, plain] at read
        exact advances_of_plain? (plain.trans read)
      | none =>
        rw [system, marker, plain] at read
        exact advances_of_any? system marker plain read

/-- As long as there is text there is a token. -/
theorem read?_eq_none_iff : Token.read? sigil given = none ↔ given = [] := by
  unfold Token.read?
  cases given with
  | nil => simp [Token.system?, Token.marker?, Token.plain?, Token.any?]
  | cons c rest => simp [Token.any?]

/-- A text is read to its end, and its tokens are what the scan gives out. -/
theorem exists_readMany? (sigil : Char) (text : List Char) :
    ∃ tokens, readMany? (Token.read? sigil) text = some (tokens, []) ∧
      scanMarkers sigil .text text = tokens.filterMap Token.name? := by
  induction length : text.length using Nat.strongRecOn generalizing text with
  | ind size ih =>
    cases read : Token.read? sigil text with
    | none =>
      obtain rfl := read?_eq_none_iff.1 read
      exact ⟨[], readMany?_of_none [] read, rfl⟩
    | some found =>
      obtain ⟨token, rest⟩ := found
      have advances := advances_of_read? read
      obtain ⟨tokens, whole, names⟩ :=
        ih rest.length (length ▸ advances.shorter) rest rfl
      refine ⟨token :: tokens, ?_, ?_⟩
      · exact readMany?_of_some text rest [] token tokens read advances.shorter whole
      · rw [advances.scanned, names, List.filterMap_cons]
        cases token.name? <;> rfl

end Tokens

/-- What a character is to the scan. -/
inductive CharKind where
  | sigil
  | letter
  | other
deriving DecidableEq

def charKind (sigil c : Char) : CharKind :=
  if c = sigil then .sigil else if isIdentChar c then .letter else .other

/-- The longest parts of a text that have characters of one kind each. -/
def runs (sigil : Char) (text : List Char) : List (List Char) :=
  text.splitBy fun c d => charKind sigil c = charKind sigil d

/-- The identifier that a run is, if the run before it is an odd number of sigils. -/
def markedName? (sigil : Char) (run next : List Char) : Option (List Char) :=
  if (∀ c ∈ run, c = sigil) ∧ run.length % 2 = 1 ∧ ∀ c ∈ next, isIdentChar c = true then some next
  else none

/-- The names that have an odd number of sigils right before them. -/
def markedNames (sigil : Char) (text : List Char) : List (List Char) :=
  ((runs sigil text).zip (runs sigil text).tail).filterMap fun pair =>
    markedName? sigil pair.1 pair.2

section Runs

variable {sigil : Char}

theorem ne_sigil_of_isIdentChar (notLetter : isIdentChar sigil = false) (c : Char)
    (letter : isIdentChar c = true) : c ≠ sigil := by
  rintro rfl
  rw [notLetter] at letter
  cases letter

/-- A system variable is passed over like any text. -/
theorem scanMarkers_system (notLetter : isIdentChar sigil = false) (rest : List Char) :
    scanMarkers sigil .system rest = scanMarkers sigil .text rest := by
  induction rest with
  | nil => rfl
  | cons c later ih =>
    by_cases letter : isIdentChar c = true
    · have different := ne_sigil_of_isIdentChar notLetter c letter
      simp only [scanMarkers, letter, different, ↓reduceIte, ih]
    · simp [scanMarkers, letter]

/-- Sigils pair up. -/
theorem scanMarkers_twice (notLetter : isIdentChar sigil = false) (rest : List Char) :
    scanMarkers sigil .text (sigil :: sigil :: rest) = scanMarkers sigil .text rest := by
  rw [← scanMarkers_system notLetter rest]
  simp [scanMarkers]

/-- Of a run of sigils the scan keeps whether it is odd. -/
theorem scanMarkers_replicate (notLetter : isIdentChar sigil = false) (count : Nat)
    (rest : List Char) :
    scanMarkers sigil .text (List.replicate count sigil ++ rest) =
      if count % 2 = 1 then scanMarkers sigil .opened rest else scanMarkers sigil .text rest := by
  induction count using Nat.twoStepInduction with
  | zero => simp
  | one => simp [scanMarkers]
  | more count even _ =>
    have parity : (count + 2) % 2 = count % 2 := by omega
    rw [List.replicate_succ, List.replicate_succ, List.cons_append, List.cons_append,
      scanMarkers_twice notLetter, even, parity]

theorem charKind_eq_sigil_iff (c : Char) : charKind sigil c = .sigil ↔ c = sigil := by
  unfold charKind
  split <;> simp_all
  split <;> simp

theorem charKind_eq_letter_iff (notLetter : isIdentChar sigil = false) (c : Char) :
    charKind sigil c = .letter ↔ isIdentChar c = true := by
  unfold charKind
  by_cases same : c = sigil
  · simp [same, notLetter]
  · by_cases letter : isIdentChar c = true <;> simp [same, letter]

/-- A part of a text whose characters are of one kind. -/
def IsRun (sigil : Char) (kind : CharKind) (run : List Char) : Prop :=
  run ≠ [] ∧ ∀ c ∈ run, charKind sigil c = kind

theorem exists_isRun_of_mem_runs (text run : List Char) (member : run ∈ runs sigil text) :
    ∃ kind, IsRun sigil kind run := by
  have filled : run ≠ [] := List.ne_nil_of_mem_splitBy member
  have chain := List.isChain_of_mem_splitBy member
  obtain ⟨first, rest, rfl⟩ := List.exists_cons_of_ne_nil filled
  refine ⟨charKind sigil first, filled, ?_⟩
  clear member filled
  induction rest generalizing first with
  | nil => simp
  | cons next rest ih =>
    obtain ⟨same, tail⟩ := List.isChain_cons_cons.1 chain
    have alike : charKind sigil first = charKind sigil next := of_decide_eq_true same
    refine List.forall_mem_cons.2 ⟨rfl, ?_⟩
    rw [alike]
    exact ih next tail

theorem IsRun.sigil_not_mem {kind : CharKind} {run : List Char} (isRun : IsRun sigil kind run)
    (other : kind ≠ .sigil) : sigil ∉ run := by
  intro inside
  exact other ((isRun.2 sigil inside).symm.trans ((charKind_eq_sigil_iff sigil).2 rfl))

/-- Behind an opening sigil a run of identifier characters is a name, and another one is not. -/
theorem scanMarkers_opened_run (notLetter : isIdentChar sigil = false) (run rest : List Char)
    (kind : CharKind) (isRun : IsRun sigil kind run) (other : kind ≠ .sigil)
    (ended : ∀ c ∈ rest.head?, charKind sigil c ≠ kind) :
    scanMarkers sigil .opened (run ++ rest) =
      (if ∀ c ∈ run, isIdentChar c = true then [run] else []) ++
        scanMarkers sigil .text (run ++ rest) := by
  have absent := isRun.sigil_not_mem other
  obtain ⟨first, later, rfl⟩ := List.exists_cons_of_ne_nil isRun.1
  have different : first ≠ sigil := fun same => absent (same ▸ List.mem_cons_self)
  by_cases letter : kind = .letter
  · subst letter
    have letters : ∀ c ∈ first :: later, isIdentChar c = true :=
      fun c member => (charKind_eq_letter_iff notLetter c).1 (isRun.2 c member)
    have outside : ∀ c ∈ rest.head?, isIdentChar c = false := by
      intro c start
      rw [← Bool.not_eq_true, ← charKind_eq_letter_iff notLetter]
      exact ended c start
    rw [scanMarkers_opened_append first later rest different letters outside, if_pos letters,
      scanMarkers_text_append _ rest absent]
    rfl
  · have outside : isIdentChar first = false := by
      rw [← Bool.not_eq_true, ← charKind_eq_letter_iff notLetter, isRun.2 first List.mem_cons_self]
      exact letter
    have unnamed : ¬ ∀ c ∈ first :: later, isIdentChar c = true := by
      intro letters
      rw [letters first List.mem_cons_self] at outside
      cases outside
    have start : ∀ c ∈ (first :: later ++ rest).head?, isIdentChar c = false ∧ c ≠ sigil := by
      simpa using ⟨outside, different⟩
    rw [if_neg unnamed, scanMarkers_opened_of_head _ start]
    rfl

/-- What the scan gives out for a run that another one follows. -/
theorem scanMarkers_run (notLetter : isIdentChar sigil = false) (run next rest : List Char)
    (kind nextKind : CharKind) (isRun : IsRun sigil kind run) (isNext : IsRun sigil nextKind next)
    (different : kind ≠ nextKind) (ended : ∀ c ∈ rest.head?, charKind sigil c ≠ nextKind) :
    scanMarkers sigil .text (run ++ (next ++ rest)) =
      (markedName? sigil run next).toList ++ scanMarkers sigil .text (next ++ rest) := by
  by_cases opening : kind = .sigil
  · subst opening
    have sigils : ∀ c ∈ run, c = sigil :=
      fun c member => (charKind_eq_sigil_iff c).1 (isRun.2 c member)
    have repeated : run = List.replicate run.length sigil := List.eq_replicate_iff.2 ⟨rfl, sigils⟩
    have scanned := scanMarkers_replicate notLetter run.length (next ++ rest)
    rw [← repeated] at scanned
    rw [scanned, markedName?]
    by_cases odd : run.length % 2 = 1
    · rw [if_pos odd,
        scanMarkers_opened_run notLetter next rest nextKind isNext different.symm ended]
      by_cases letters : ∀ c ∈ next, isIdentChar c = true
      · rw [if_pos letters, if_pos ⟨sigils, odd, letters⟩]
        rfl
      · rw [if_neg letters, if_neg fun marked => letters marked.2.2]
        rfl
    · rw [if_neg odd, if_neg fun marked => odd marked.2.1]
      rfl
  · have absent := isRun.sigil_not_mem opening
    have unmarked : ¬ ∀ c ∈ run, c = sigil := by
      intro sigils
      obtain ⟨c, member⟩ := List.exists_mem_of_ne_nil run isRun.1
      exact absent (sigils c member ▸ member)
    rw [scanMarkers_text_append run _ absent, markedName?, if_neg fun marked => unmarked marked.1]
    rfl

/-- Runs of which no two in a row are of one kind. -/
structure Alternates (sigil : Char) (parts : List (List Char)) : Prop where
  runs : ∀ run ∈ parts, ∃ kind, IsRun sigil kind run
  changes : parts.IsChain fun run next => ∀ kind, IsRun sigil kind run → ¬ IsRun sigil kind next

theorem alternates_runs (text : List Char) : Alternates sigil (runs sigil text) := by
  refine ⟨exists_isRun_of_mem_runs text, ?_⟩
  have chain := List.isChain_getLast_head_splitBy
    (fun c d => decide (charKind sigil c = charKind sigil d)) text
  refine chain.imp ?_
  rintro run next ⟨filled, nextFilled, different⟩ kind isRun isNext
  have last := isRun.2 (run.getLast filled) (List.getLast_mem filled)
  have first := isNext.2 (next.head nextFilled) (List.head_mem nextFilled)
  exact of_decide_eq_false different (last.trans first.symm)

theorem Alternates.tail {run : List Char} {rest : List (List Char)}
    (alternates : Alternates sigil (run :: rest)) : Alternates sigil rest :=
  ⟨fun next member => alternates.runs next (List.mem_cons_of_mem run member),
    alternates.changes.tail⟩

/-- Behind a run there is a character of another kind or none. -/
theorem Alternates.ended {run : List Char} {rest : List (List Char)} {kind : CharKind}
    (alternates : Alternates sigil (run :: rest)) (isRun : IsRun sigil kind run) :
    ∀ c ∈ rest.flatten.head?, charKind sigil c ≠ kind := by
  intro c first same
  cases rest with
  | nil => cases first
  | cons next later =>
    obtain ⟨nextKind, filled, alike⟩ := alternates.runs next (by simp)
    rw [List.flatten_cons, List.head?_append_of_ne_nil _ filled] at first
    have nextIs : nextKind = kind := (alike c (List.mem_of_head? first)).symm.trans same
    have changes := (List.isChain_cons_cons.1 alternates.changes).1
    exact changes kind isRun ⟨filled, nextIs ▸ alike⟩

/-- The last run of a text is no name. -/
theorem scanMarkers_last (notLetter : isIdentChar sigil = false) (run : List Char)
    (kind : CharKind) (isRun : IsRun sigil kind run) : scanMarkers sigil .text run = [] := by
  by_cases opening : kind = .sigil
  · subst opening
    have repeated : run = List.replicate run.length sigil :=
      List.eq_replicate_iff.2 ⟨rfl, fun c member => (charKind_eq_sigil_iff c).1 (isRun.2 c member)⟩
    have scanned := scanMarkers_replicate notLetter run.length []
    rw [List.append_nil, ← repeated] at scanned
    rw [scanned]
    split <;> rfl
  · exact scanMarkers_of_no_sigil run (isRun.sigil_not_mem opening)

/-- The scan gives out the names one by one, as the runs mark them. -/
theorem scanMarkers_flatten (notLetter : isIdentChar sigil = false) (parts : List (List Char))
    (alternates : Alternates sigil parts) :
    scanMarkers sigil .text parts.flatten =
      (parts.zip parts.tail).filterMap fun pair => markedName? sigil pair.1 pair.2 := by
  induction parts with
  | nil => rfl
  | cons run rest ih =>
    obtain ⟨kind, isRun⟩ := alternates.runs run List.mem_cons_self
    cases rest with
    | nil =>
      rw [List.flatten_cons, List.flatten_nil, List.append_nil,
        scanMarkers_last notLetter run kind isRun]
      rfl
    | cons next later =>
      obtain ⟨nextKind, isNext⟩ := alternates.runs next (by simp)
      have different : kind ≠ nextKind := by
        rintro rfl
        exact (List.isChain_cons_cons.1 alternates.changes).1 kind isRun isNext
      have step := scanMarkers_run notLetter run next later.flatten kind nextKind isRun isNext
        different (alternates.tail.ended isNext)
      have tail := ih alternates.tail
      rw [List.flatten_cons] at tail
      rw [List.flatten_cons, List.flatten_cons, step, tail]
      simp only [List.tail_cons, List.zip_cons_cons, List.filterMap_cons]
      cases markedName? sigil run next <;> rfl

theorem scanMarkers_eq_markedNames (notLetter : isIdentChar sigil = false) (text : List Char) :
    scanMarkers sigil .text text = markedNames sigil text := by
  have scanned := scanMarkers_flatten notLetter _ (alternates_runs text)
  rwa [runs, List.flatten_splitBy] at scanned

end Runs

/-- The placeholders of a text are the identifiers right behind an odd number of sigils, if sigils
are no part of identifiers. Whatever the sigil is, a text is read token by token to its end, and
the distinct placeholders are those that are left without repetitions. -/
theorem recognises_markers (text : String) (sigil : Char) :
    (isIdentChar sigil = false →
      markerOccurrences text sigil = (markedNames sigil text.toList).map String.ofList) ∧
    (∃ tokens, readMany? (Token.read? sigil) text.toList = some (tokens, []) ∧
      markerOccurrences text sigil = (tokens.filterMap Token.name?).map String.ofList) ∧
    placeholders text sigil = (markerOccurrences text sigil).eraseDups := by
  refine ⟨?_, ?_, distinct_eq_eraseDups _⟩
  · intro notLetter
    rw [markerOccurrences, scanMarkers_eq_markedNames notLetter]
  · obtain ⟨tokens, whole, names⟩ := exists_readMany? sigil text.toList
    exact ⟨tokens, whole, by rw [markerOccurrences, names]⟩

/-- Of three sigils two are a pair and one opens a placeholder. -/
theorem recognises_markers_triple :
    isIdentChar '@' = false ∧
    markerOccurrences "@@@a@b <> @@identity - @ c" '@' = ["a", "b"] ∧
    (∃ tokens, readMany? (Token.read? '@') "@@@a@b <> @@identity - @ c".toList = some (tokens, []) ∧
      ["a", "b"] = (tokens.filterMap Token.name?).map String.ofList) ∧
    placeholders "@@@a@b <> @@identity - @ c" '@' = ["a", "b"].eraseDups := by
  have notLetter : isIdentChar '@' = false := by decide
  have names : (markedNames '@' "@@@a@b <> @@identity - @ c".toList).map String.ofList =
      ["a", "b"] := by
    decide +kernel
  obtain ⟨marked, tokens, distinct⟩ := recognises_markers "@@@a@b <> @@identity - @ c" '@'
  rw [marked notLetter, names] at tokens distinct
  exact ⟨notLetter, (marked notLetter).trans names, tokens, distinct⟩

end DataAccess.Sql
