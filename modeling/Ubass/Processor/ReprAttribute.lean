import Mathlib.Data.List.Induction

/-!
# The `repr` attribute of a derived codec

`SerializeAs` of `ubass_macros` looks for the integer type among the arguments of the first
`repr(...)` attribute.  Its loop reads identifiers until no token is left and goes on after
a failure.  The reader of identifiers, `<syn::Ident as Parse>::parse`, is not part of the
repository: it is a parameter, which either takes an identifier off the front or fails and
stays where it is.
-/

set_option autoImplicit false

namespace Ubass

/-! ## Tokens -/

/-- The delimiters of `proc_macro`.  `none` stands around what a macro has put in; no character is
written for it. -/
inductive Delimiter where
  | parenthesis
  | brace
  | bracket
  | none
deriving DecidableEq

inductive TokenStream where
  | nil
  | ident (name : String) (rest : TokenStream)
  | punct (char : Char) (rest : TokenStream)
  | literal (text : String) (rest : TokenStream)
  | group (delimiter : Delimiter) (content rest : TokenStream)
deriving DecidableEq

namespace TokenStream

def append : TokenStream → TokenStream → TokenStream
  | nil, after => after
  | ident name rest, after => ident name (rest.append after)
  | punct char rest, after => punct char (rest.append after)
  | literal text rest, after => literal text (rest.append after)
  | group delimiter content rest, after => group delimiter content (rest.append after)

def size : TokenStream → Nat
  | nil => 0
  | ident _ rest | punct _ rest | literal _ rest => rest.size + 1
  | group _ content rest => content.size + rest.size + 1

def idents : TokenStream → List String
  | nil => []
  | ident name rest => name :: rest.idents
  | punct _ rest | literal _ rest => rest.idents
  | group .none content rest => content.idents ++ rest.idents
  | group _ _ rest => rest.idents

def onlyIdents (accepts : String → Bool) : TokenStream → Bool
  | nil => true
  | ident name rest => accepts name && rest.onlyIdents accepts
  | group .none content rest => content.onlyIdents accepts && rest.onlyIdents accepts
  | punct _ _ | literal _ _ | group _ _ _ => false

def ends : TokenStream → Bool
  | nil => true
  | ident _ rest | punct _ rest | literal _ rest => rest.ends
  | group delimiter content nil => delimiter ≠ .none || (content ≠ nil && content.ends)
  | group _ _ rest => rest.ends

-- the equations are made once, for all proofs below
attribute [local simp] append size idents onlyIdents ends in
@[simp] theorem append_nil (tokens : TokenStream) : tokens.append nil = tokens := by
  induction tokens with
  | nil => rfl
  | ident _ _ ih | punct _ _ ih | literal _ _ ih | group _ _ _ _ ih => rw [append, ih]

theorem append_assoc (tokens more after : TokenStream) :
    (tokens.append more).append after = tokens.append (more.append after) := by
  induction tokens with
  | nil => rfl
  | ident _ _ ih | punct _ _ ih | literal _ _ ih | group _ _ _ _ ih => simp only [append, ih]

@[simp] theorem size_append (tokens after : TokenStream) :
    (tokens.append after).size = tokens.size + after.size := by
  induction tokens with
  | nil => simp [append, size]
  | ident _ _ ih | punct _ _ ih | literal _ _ ih | group _ _ _ _ ih =>
      simp only [append, size, ih]
      omega

@[simp] theorem idents_append (tokens after : TokenStream) :
    (tokens.append after).idents = tokens.idents ++ after.idents := by
  induction tokens with
  | nil => rfl
  | ident _ _ ih | punct _ _ ih | literal _ _ ih => simp [append, idents, ih]
  | group delimiter _ _ _ ih => cases delimiter <;> simp [append, idents, ih]

@[simp] theorem onlyIdents_append (accepts : String → Bool) (tokens after : TokenStream) :
    (tokens.append after).onlyIdents accepts =
      (tokens.onlyIdents accepts && after.onlyIdents accepts) := by
  induction tokens with
  | nil => simp [append, onlyIdents]
  | ident _ _ ih => simp [append, onlyIdents, ih, Bool.and_assoc]
  | punct | literal => rfl
  | group delimiter _ _ _ ih => cases delimiter <;> simp [append, onlyIdents, ih, Bool.and_assoc]

theorem ends_group {delimiter : Delimiter} {content rest : TokenStream} (more : rest ≠ nil) :
    (group delimiter content rest).ends = rest.ends := by
  cases rest with
  | nil => exact absurd rfl more
  | ident | punct | literal | group => rfl

theorem append_ne_nil (tokens : TokenStream) {after : TokenStream} (more : after ≠ nil) :
    tokens.append after ≠ nil := by
  cases tokens with
  | nil => exact more
  | ident | punct | literal | group => exact fun empty => by cases empty

theorem ends_append (tokens : TokenStream) {after : TokenStream} (more : after ≠ nil) :
    (tokens.append after).ends = after.ends := by
  induction tokens with
  | nil => rfl
  | ident _ _ ih | punct _ _ ih | literal _ _ ih => exact ih
  | group _ _ rest _ ih => rw [append, ends_group (append_ne_nil rest more), ih]

theorem ends_append_of_group {content rest : TokenStream} (some : content.append rest ≠ nil) :
    (group .none content rest).ends = (content.append rest).ends := by
  by_cases last : rest = nil
  · subst last
    rw [append_nil] at some ⊢
    simp [ends, some]
  · rw [ends_group last, ends_append content last]

end TokenStream

/-! ## The attribute -/

/-- `<syn::Ident as Parse>::parse`: the identifier read and the tokens behind it.  Where it fails,
the position does not move.  `accepts` says which words are no keywords. -/
structure IdentParse where
  accepts : String → Bool
  parse : TokenStream → Option (String × TokenStream)
  parse_nil : parse .nil = none
  parse_ident : ∀ name rest,
    parse (.ident name rest) = if accepts name then some (name, rest) else none
  parse_punct : ∀ char rest, parse (.punct char rest) = none
  parse_literal : ∀ text rest, parse (.literal text rest) = none
  parse_group : ∀ delimiter content rest, delimiter ≠ .none →
    parse (.group delimiter content rest) = none
  parse_invisible : ∀ content rest,
    parse (.group .none content rest) = parse (content.append rest)

namespace SerializeAs

def intTypes : List String :=
  ["i8", "i16", "i32", "i64", "i128", "isize", "u8", "u16", "u32", "u64", "u128", "usize"]

/-- The first loop of `SerializeAs::parse`, for so many turns at most. -/
def parseIdents (syn : IdentParse) :
    Nat → TokenStream → List (Option String) → Option (List (Option String))
  | _, .nil, idents => some idents
  | 0, _, _ => none
  | fuel + 1, input, idents =>
      match syn.parse input with
      | some (ident, rest) => parseIdents syn fuel rest (idents ++ [some ident])
      | none => parseIdents syn fuel input (idents ++ [none])

/-- The second loop of `SerializeAs::parse`. -/
def intType (idents : List (Option String)) : Option String :=
  idents.foldl (fun ty res =>
    match res with
    | none => ty
    | some id => if id ∈ intTypes then some id else ty) none

inductive Outcome where
  | returned (ty : String)
  /-- `ty.unwrap()` on `None` -/
  | panicked
deriving DecidableEq

/-- `SerializeAs::parse` -/
def parse (syn : IdentParse) (fuel : Nat) (input : TokenStream) : Option Outcome :=
  (parseIdents syn fuel input []).map fun idents =>
    match intType idents with
    | some ty => .returned ty
    | none => .panicked

/-- An attribute: its path, and its arguments where it has a list of them. -/
structure Attribute where
  path : String
  arguments : Option TokenStream

/-- `SerializeAs::find`.  The parser itself never gives an error back, so the first list decides. -/
def find (syn : IdentParse) (fuel : Nat) : List Attribute → Option (Option Outcome)
  | [] => some none
  | attr :: rest =>
      if attr.path = "repr" then
        match attr.arguments with
        | some tokens => (parse syn fuel tokens).map some
        | none => find syn fuel rest
      else find syn fuel rest

/-- The arguments that `find` parses. -/
def firstList (attrs : List Attribute) : Option TokenStream :=
  attrs.findSome? fun attr => if attr.path = "repr" then attr.arguments else none

/-- The parser ends, and if an integer type is listed it returns one that is. -/
def Reads (syn : IdentParse) (tokens : TokenStream) : Prop :=
  ∃ fuel outcome, parse syn fuel tokens = some outcome ∧
    ((∃ ty ∈ tokens.idents, ty ∈ intTypes) →
      ∃ ty ∈ tokens.idents, ty ∈ intTypes ∧ outcome = .returned ty)

/-- Every token is an identifier that is no keyword, and no empty group is left at the end. -/
def Plain (syn : IdentParse) (tokens : TokenStream) : Prop :=
  tokens.onlyIdents syn.accepts = true ∧ tokens.ends = true

variable {syn : IdentParse}

/-! ## One turn -/

theorem parse_takes {tokens rest : TokenStream} {name : String}
    (taken : syn.parse tokens = some (name, rest)) :
    tokens.idents = name :: rest.idents ∧ rest.size < tokens.size := by
  induction bound : tokens.size using Nat.strongRecOn generalizing tokens with
  | ind size ih =>
    cases tokens with
    | nil =>
        rw [syn.parse_nil] at taken
        cases taken
    | ident first after =>
        rw [syn.parse_ident] at taken
        split at taken
        · cases taken
          rw [TokenStream.size] at bound
          exact ⟨rfl, by omega⟩
        · cases taken
    | punct char after =>
        rw [syn.parse_punct] at taken
        cases taken
    | literal text after =>
        rw [syn.parse_literal] at taken
        cases taken
    | group delimiter content after =>
        by_cases visible : delimiter = .none
        · subst visible
          rw [syn.parse_invisible] at taken
          rw [TokenStream.size] at bound
          have smaller : (content.append after).size < size := by
            rw [TokenStream.size_append]
            omega
          obtain ⟨listed, fewer⟩ := ih _ smaller taken rfl
          rw [TokenStream.idents_append] at listed
          exact ⟨listed, Nat.lt_trans fewer smaller⟩
        · rw [syn.parse_group _ _ _ visible] at taken
          cases taken

theorem plain_iff_takes {tokens : TokenStream} (more : tokens ≠ .nil) :
    Plain syn tokens ↔
      ∃ name rest, syn.parse tokens = some (name, rest) ∧ Plain syn rest := by
  induction bound : tokens.size using Nat.strongRecOn generalizing tokens with
  | ind size ih =>
    cases tokens with
    | nil => exact absurd rfl more
    | ident name rest =>
        rw [syn.parse_ident]
        cases accepted : syn.accepts name <;>
          simp [Plain, TokenStream.onlyIdents, TokenStream.ends, accepted]
    | punct char rest => simp [Plain, TokenStream.onlyIdents, syn.parse_punct]
    | literal text rest => simp [Plain, TokenStream.onlyIdents, syn.parse_literal]
    | group delimiter content rest =>
        by_cases visible : delimiter = .none
        · subst visible
          rw [syn.parse_invisible]
          by_cases empty : content.append rest = .nil
          · have both : content = .nil ∧ rest = .nil := by
              cases content <;> simp_all [TokenStream.append]
            obtain ⟨rfl, rfl⟩ := both
            simp [Plain, TokenStream.ends, TokenStream.append, syn.parse_nil]
          · rw [TokenStream.size] at bound
            have smaller : (content.append rest).size < size := by
              rw [TokenStream.size_append]
              omega
            rw [← ih _ smaller empty rfl, Plain, Plain, TokenStream.ends_append_of_group empty,
              TokenStream.onlyIdents_append]
            rfl
        · have refused : (TokenStream.group delimiter content rest).onlyIdents syn.accepts =
              false := by
            cases delimiter <;> first | rfl | exact absurd rfl visible
          simp [Plain, refused, syn.parse_group _ _ _ visible]

/-! ## The loop -/

theorem parseIdents_succ {tokens : TokenStream} (more : tokens ≠ .nil) (fuel : Nat)
    (idents : List (Option String)) :
    parseIdents syn (fuel + 1) tokens idents =
      match syn.parse tokens with
      | some (ident, rest) => parseIdents syn fuel rest (idents ++ [some ident])
      | none => parseIdents syn fuel tokens (idents ++ [none]) := by
  cases tokens with
  | nil => exact absurd rfl more
  | ident | punct | literal | group => rfl

theorem parseIdents_stuck {tokens : TokenStream} (more : tokens ≠ .nil)
    (fails : syn.parse tokens = none) (fuel : Nat) (idents : List (Option String)) :
    parseIdents syn fuel tokens idents = none := by
  induction fuel generalizing idents with
  | zero =>
      cases tokens with
      | nil => exact absurd rfl more
      | ident | punct | literal | group => rfl
  | succ fuel ih => rw [parseIdents_succ more, fails, ih]

theorem parseIdents_plain {tokens : TokenStream} (plain : Plain syn tokens) {fuel : Nat}
    (enough : tokens.size ≤ fuel) (idents : List (Option String)) :
    parseIdents syn fuel tokens idents = some (idents ++ tokens.idents.map some) := by
  induction fuel generalizing tokens idents with
  | zero =>
      cases tokens with
      | nil => simp [parseIdents, TokenStream.idents]
      | ident | punct | literal | group =>
          rw [TokenStream.size] at enough
          omega
  | succ fuel ih =>
      by_cases more : tokens = .nil
      · subst more
        simp [parseIdents, TokenStream.idents]
      · obtain ⟨name, rest, taken, restPlain⟩ := (plain_iff_takes more).mp plain
        obtain ⟨listed, fewer⟩ := parse_takes taken
        rw [parseIdents_succ more, taken, listed]
        simp only [ih restPlain (by omega), List.map_cons, List.append_assoc,
          List.singleton_append]

theorem plain_of_parseIdents {tokens : TokenStream} {fuel : Nat}
    {idents result : List (Option String)}
    (ended : parseIdents syn fuel tokens idents = some result) : Plain syn tokens := by
  induction fuel generalizing tokens idents with
  | zero =>
      cases tokens with
      | nil => exact ⟨rfl, rfl⟩
      | ident | punct | literal | group => cases ended
  | succ fuel ih =>
      by_cases more : tokens = .nil
      · subst more
        exact ⟨rfl, rfl⟩
      · cases taken : syn.parse tokens with
        | none =>
            rw [parseIdents_stuck more taken] at ended
            cases ended
        | some found =>
            rw [parseIdents_succ more, taken] at ended
            exact (plain_iff_takes more).mpr ⟨_, _, taken, ih ended⟩

/-! ## The integer type -/

theorem intType_eq (names : List String) :
    intType (names.map some) = (names.filter (· ∈ intTypes)).getLast? := by
  induction names using List.reverseRecOn with
  | nil => rfl
  | append_singleton names name ih =>
      rw [intType] at ih ⊢
      rw [List.map_append, List.foldl_append, ih, List.filter_append]
      by_cases listed : name ∈ intTypes <;> simp [listed]

theorem parse_plain {tokens : TokenStream} (plain : Plain syn tokens) {fuel : Nat}
    (enough : tokens.size ≤ fuel) :
    parse syn fuel tokens =
      some (match (tokens.idents.filter (· ∈ intTypes)).getLast? with
        | some ty => .returned ty
        | none => .panicked) := by
  rw [parse, parseIdents_plain plain enough, List.nil_append, Option.map_some, intType_eq]

/-- The parser ends, and returns an integer type where one is listed, exactly when every token of
the attribute is an identifier. -/
theorem reads_iff (syn : IdentParse) (tokens : TokenStream) :
    Reads syn tokens ↔ Plain syn tokens := by
  constructor
  · rintro ⟨fuel, outcome, ended, _⟩
    obtain ⟨idents, read, _⟩ := Option.map_eq_some_iff.mp ended
    exact plain_of_parseIdents read
  · intro plain
    refine ⟨tokens.size, _, parse_plain plain (Nat.le_refl _), ?_⟩
    rintro ⟨ty, listed, isInt⟩
    have among : ty ∈ tokens.idents.filter (· ∈ intTypes) :=
      List.mem_filter.mpr ⟨listed, decide_eq_true isInt⟩
    have found := List.getLast?_eq_some_getLast (List.ne_nil_of_mem among)
    obtain ⟨lastListed, lastInt⟩ := List.mem_filter.mp (List.mem_of_getLast? found)
    rw [found]
    exact ⟨_, lastListed, of_decide_eq_true lastInt, rfl⟩

/-- The macro is over with its attributes exactly when the first list of `repr` is plain. -/
theorem find_ends_iff (attrs : List Attribute) :
    (∃ fuel found, find syn fuel attrs = some found) ↔
      ∀ tokens, firstList attrs = some tokens → Plain syn tokens := by
  induction attrs with
  | nil => simp [find, firstList]
  | cons attr rest ih =>
      by_cases named : attr.path = "repr"
      · cases list : attr.arguments with
        | none => simpa [find, firstList, named, list] using ih
        | some tokens =>
            simp only [find, firstList, if_pos named, list, List.findSome?_cons]
            constructor
            · rintro ⟨fuel, found, ended⟩ other same
              obtain ⟨outcome, parsed, _⟩ := Option.map_eq_some_iff.mp ended
              obtain ⟨idents, read, _⟩ := Option.map_eq_some_iff.mp parsed
              cases Option.some.inj same
              exact plain_of_parseIdents read
            · intro plain
              refine ⟨tokens.size, ?_⟩
              rw [parse_plain (plain tokens rfl) (Nat.le_refl _), Option.map_some]
              exact ⟨_, rfl⟩
      · simpa [find, firstList, named] using ih

/-! ## `repr(u8)` and `repr(C, u8)` -/

/-- The first identifier, and what is read where the tokens before `after` give none. -/
def firstIdent (accepts : String → Bool) : TokenStream → TokenStream →
    Option (String × TokenStream) → Option (String × TokenStream)
  | .nil, _, otherwise => otherwise
  | .ident name rest, after, _ =>
      if accepts name then some (name, rest.append after) else none
  | .group .none content rest, after, otherwise =>
      firstIdent accepts content (rest.append after) (firstIdent accepts rest after otherwise)
  | .punct _ _, _, _ | .literal _ _, _, _ | .group _ _ _, _, _ => none

theorem firstIdent_append (accepts : String → Bool) (tokens more after : TokenStream)
    (otherwise : Option (String × TokenStream)) :
    firstIdent accepts (tokens.append more) after otherwise =
      firstIdent accepts tokens (more.append after) (firstIdent accepts more after otherwise) := by
  induction tokens generalizing after otherwise with
  | nil => rfl
  | ident name rest => simp [TokenStream.append, firstIdent, TokenStream.append_assoc]
  | punct | literal => rfl
  | group delimiter content rest _ ih =>
      cases delimiter <;> simp [TokenStream.append, firstIdent, ih, TokenStream.append_assoc]

/-- No keyword, as far as a few of them go. -/
def acceptAsIdent (name : String) : Bool :=
  name ∉ ["_", "as", "crate", "false", "self", "super", "true", "type"]

def identParse : IdentParse where
  accepts := acceptAsIdent
  parse tokens := firstIdent acceptAsIdent tokens .nil none
  parse_nil := rfl
  parse_ident name rest := by simp only [firstIdent, TokenStream.append_nil]
  parse_punct _ _ := rfl
  parse_literal _ _ := rfl
  parse_group delimiter _ _ visible := by
    cases delimiter <;> first | rfl | exact absurd rfl visible
  parse_invisible content rest := by
    rw [firstIdent_append]
    rfl

/-- `C` in an invisible group, and `u8` behind it. -/
theorem reads_iff_group :
    Reads identParse (.group .none (.ident "C" .nil) (.ident "u8" .nil)) :=
  (reads_iff identParse (.group .none (.ident "C" .nil) (.ident "u8" .nil))).mpr
    ⟨by decide, rfl⟩

/-- The comma of `repr(C, u8)` is never read. -/
theorem not_reads_comma : ¬ Reads identParse (.ident "C" (.punct ',' (.ident "u8" .nil))) := by
  rintro ⟨fuel, outcome, ended, _⟩
  obtain ⟨idents, read, _⟩ := Option.map_eq_some_iff.mp ended
  have plain := plain_of_parseIdents read
  exact absurd plain.1 (by decide)

end SerializeAs
end Ubass
