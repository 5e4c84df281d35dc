import CameraHotplug.Proofs.JsonString
import Mathlib.Data.List.DropRight
import Mathlib.Data.List.TakeDrop

/-!
# Values that nobody asked for

A value that is only checked to be JSON is walked over to its end, however deep it is nested, and
whatever the grammar allows in it. What follows it is left as it is.
-/

namespace CameraHotplug.Json

/-! ### Numbers -/

/-- A run of digits ends where no digit follows. -/
theorem span_isDigit {digits rest : List Char} (hdigits : ∀ char ∈ digits, char.isDigit = true)
    (hrest : ∀ char ∈ rest.head?, char.isDigit = false) :
    (digits ++ rest).span Char.isDigit = (digits, rest) := by
  have hstop : rest.takeWhile Char.isDigit = [] ∧ rest.dropWhile Char.isDigit = rest := by
    cases rest with
    | nil => exact ⟨rfl, rfl⟩
    | cons char rest => simp [hrest char rfl]
  rw [List.span_eq_takeWhile_dropWhile, List.takeWhile_append_of_pos hdigits,
    List.dropWhile_append_of_pos hdigits, hstop.1, hstop.2, List.append_nil]

/-- What may follow a number is no part of one. -/
theorem ne_of_ends {rest : List Char} (hends : Ends rest) {char : Char}
    (hchar : char ∈ rest.head?) :
    char.isDigit = false ∧ char ≠ '.' ∧ char ≠ 'e' ∧ char ≠ 'E' := by
  have hmem := hends char hchar
  simp only [blanks, delimiters, List.cons_append, List.nil_append, List.mem_cons,
    List.not_mem_nil, or_false] at hmem
  rcases hmem with rfl | rfl | rfl | rfl | rfl | rfl | rfl <;> decide

theorem skipDigits_of_isDigits {digits rest : List Char} (hdigits : IsDigits digits)
    (hrest : ∀ char ∈ rest.head?, char.isDigit = false) :
    skipDigits (digits ++ rest) = .ok rest := by
  rw [skipDigits, span_isDigit hdigits.2 hrest]
  split
  next heq => exact absurd (congrArg Prod.fst heq) hdigits.1
  next heq => cases heq; rfl

theorem skipExponent_of_ends {rest : List Char} (hends : Ends rest) :
    skipExponent rest = .ok rest := by
  cases rest with
  | nil => rfl
  | cons char rest =>
      obtain ⟨_, _, hsmall, hlarge⟩ := ne_of_ends hends rfl
      simp [skipExponent, hsmall, hlarge]

theorem skipExponent_of_isExponent {exponent rest : List Char} (hexponent : IsExponent exponent)
    (hends : Ends rest) : skipExponent (exponent ++ rest) = .ok rest := by
  cases hexponent with
  | none => exact skipExponent_of_ends hends
  | @some letter sign digits hletter hsign hdigits =>
      have hskipped : skipDigits (digits ++ rest) = .ok rest :=
        skipDigits_of_isDigits hdigits fun char hchar => (ne_of_ends hends hchar).1
      have hdispatch : skipExponent (letter :: (sign ++ digits) ++ rest) =
          skipDigits (digits ++ rest) := by
        simp only [List.mem_cons, List.not_mem_nil, or_false] at hletter hsign
        obtain ⟨hsome, hall⟩ := hdigits
        cases digits with
        | nil => exact absurd rfl hsome
        | cons first digits =>
            have hfirst := hall first List.mem_cons_self
            have hplus : first ≠ '+' := fun heq => absurd (heq ▸ hfirst) (by decide)
            have hminus : first ≠ '-' := fun heq => absurd (heq ▸ hfirst) (by decide)
            rcases hletter with rfl | rfl <;> rcases hsign with rfl | rfl | rfl <;>
              simp [skipExponent, hplus, hminus]
      rw [hdispatch, hskipped]

/-- The sign of a number and its whole part are passed. -/
theorem skipNumber_of_isWhole {sign whole tail : List Char} (hsign : sign ∈ [[], ['-']])
    (hwhole : IsWhole whole) (htail : ∀ char ∈ tail.head?, char.isDigit = false) :
    skipNumber (sign ++ (whole ++ tail)) =
      if tail.head? = some '.' then (skipDigits tail.tail).bind skipExponent
      else skipExponent tail := by
  obtain ⟨⟨hsome, hdigits⟩, hzero⟩ := hwhole
  have hspan := span_isDigit hdigits htail
  have hstripped : skipNumber (sign ++ (whole ++ tail)) = skipNumber ('-' :: (whole ++ tail)) := by
    cases whole with
    | nil => exact absurd rfl hsome
    | cons first digits =>
        have hfirst := hdigits first List.mem_cons_self
        have hminus : first ≠ '-' := fun heq => absurd (heq ▸ hfirst) (by decide)
        simp only [List.mem_cons, List.not_mem_nil, or_false] at hsign
        rcases hsign with rfl | rfl
        · simp [skipNumber, hminus]
        · rfl
  rw [hstripped, skipNumber, hspan]
  split
  next heq => exact absurd (congrArg Prod.fst heq) hsome
  next heq =>
    have hlong : whole = '0' :: _ :: _ := congrArg Prod.fst heq
    have hshort := hzero (by rw [hlong]; rfl)
    rw [hlong] at hshort
    simp at hshort
  next heq =>
    obtain ⟨rfl, rfl⟩ := Prod.mk.inj heq
    rfl
  next hother heq =>
    obtain ⟨rfl, rfl⟩ := Prod.mk.inj heq
    rw [if_neg]
    intro hpoint
    obtain ⟨rest, hrest⟩ := List.head?_eq_some_iff.mp hpoint
    exact hother _ hrest

theorem skipNumber_of_isNumber {chars rest : List Char} (hnumber : IsNumber chars)
    (hends : Ends rest) : skipNumber (chars ++ rest) = .ok rest := by
  cases hnumber with
  | @mk sign whole fraction exponent hsign hwhole hfraction hexponent =>
      have hafter : ∀ char ∈ (exponent ++ rest).head?, char.isDigit = false ∧ char ≠ '.' := by
        intro char hchar
        cases hexponent with
        | none => exact ⟨(ne_of_ends hends hchar).1, (ne_of_ends hends hchar).2.1⟩
        | @some letter _ _ hletter _ _ =>
            obtain rfl : letter = char := Option.some.inj hchar
            simp only [List.mem_cons, List.not_mem_nil, or_false] at hletter
            rcases hletter with rfl | rfl <;> decide
      have hexponentSkipped := skipExponent_of_isExponent hexponent hends
      cases hfraction with
      | none =>
          rw [List.nil_append, List.append_assoc, List.append_assoc,
            skipNumber_of_isWhole hsign hwhole fun char hchar => (hafter char hchar).1, if_neg,
            hexponentSkipped]
          exact fun hpoint => (hafter '.' hpoint).2 rfl
      | @some digits hdigits =>
          have hskipped : skipDigits (digits ++ (exponent ++ rest)) = .ok (exponent ++ rest) :=
            skipDigits_of_isDigits hdigits fun char hchar => (hafter char hchar).1
          simp only [List.append_assoc, List.cons_append]
          rw [skipNumber_of_isWhole hsign hwhole (by simp), List.head?_cons, if_pos rfl,
            List.tail_cons, hskipped]
          exact hexponentSkipped

/-! ### Scalars and names -/

theorem skipScalar_of_isNumber {chars rest : List Char} (hnumber : IsNumber chars)
    (hends : Ends rest) : skipScalar (chars ++ rest) = .ok rest := by
  have hskipped := skipNumber_of_isNumber hnumber hends
  obtain ⟨first, tail, rfl, hfirst⟩ := exists_cons_of_isNumber hnumber
  rw [List.cons_append] at hskipped ⊢
  unfold skipScalar
  split
  next heq => simp at heq
  next heq =>
    obtain ⟨rfl, _⟩ := List.cons.inj heq
    simp at hfirst
  next heq =>
    obtain ⟨rfl, _⟩ := List.cons.inj heq
    simp at hfirst
  next heq =>
    obtain ⟨rfl, _⟩ := List.cons.inj heq
    simp at hfirst
  next heq =>
    obtain ⟨rfl, _⟩ := List.cons.inj heq
    simp at hfirst
  next heq =>
    obtain ⟨rfl, rfl⟩ := List.cons.inj heq
    rw [if_pos (by simpa using hfirst), hskipped]

theorem skipName_of_member {member : Member} (hbody : IsBody member.body)
    (hbefore : IsBlank member.before) {blank : List Char} (hblank : IsBlank blank)
    (rest : List Char) :
    skipName (blank ++ (member.chars ++ rest)) = .ok (member.after ++ (member.value ++ rest)) := by
  have hcolon : skipSpace (member.before ++ ':' :: (member.after ++ (member.value ++ rest))) =
      ':' :: (member.after ++ (member.value ++ rest)) :=
    skipSpace_append hbefore _
  rw [skipName, skipSpace_append hblank]
  have hquote (chars : List Char) : skipSpace ('"' :: chars) = '"' :: chars := rfl
  simp only [Member.chars_append, hquote, skipQuoted_of_isBody hbody, Except.bind, hcolon]

/-! ### Open brackets -/

namespace Bracket

def opening : Bracket → Char
  | .array => '['
  | .object => '\x7b'

def closing : Bracket → Char
  | .array => ']'
  | .object => '\x7d'

end Bracket

/-- Before the items of a bracket: those of an object have names. -/
def skipItem (opened : List Bracket) (bracket : Bracket) (chars : List Char) (steps : Nat) :
    Except Fault (List Char) :=
  match bracket with
  | .array => skipOpen steps true (.array :: opened) chars
  | .object => (skipName chars).bind fun rest => skipOpen steps true (.object :: opened) rest

theorem skipSpace_skipSpace (chars : List Char) :
    skipSpace (skipSpace chars) = skipSpace chars := by
  rw [skipSpace, skipSpace, List.dropWhile_idempotent]

theorem skipOpen_skipSpace (opened : List Bracket) (chars : List Char) (steps : Nat) :
    skipOpen steps true opened (skipSpace chars) = skipOpen steps true opened chars := by
  cases steps with
  | zero => rfl
  | succ steps => rw [skipOpen, skipOpen, skipSpace_skipSpace]

theorem skipItem_skipSpace (opened : List Bracket) (bracket : Bracket) (chars : List Char)
    (steps : Nat) :
    skipItem opened bracket (skipSpace chars) steps = skipItem opened bracket chars steps := by
  cases bracket with
  | array => exact skipOpen_skipSpace _ chars steps
  | object => simp only [skipItem, skipName, skipSpace_skipSpace]

section Moves

variable {blank : List Char} (hblank : IsBlank blank) (opened : List Bracket) (bracket : Bracket)
  (rest : List Char) (steps : Nat)

include hblank

theorem skipOpen_opening (hitem : (skipSpace rest).head? ≠ some bracket.closing) :
    skipOpen (steps + 1) true opened (blank ++ bracket.opening :: rest) =
      skipItem opened bracket rest steps := by
  rw [← skipItem_skipSpace, skipOpen, skipSpace_append hblank]
  cases bracket with
  | array =>
      have hopening : skipSpace ('[' :: rest) = '[' :: rest := rfl
      simp only [Bracket.opening, hopening]
      split
      next heq => rw [heq] at hitem; exact absurd rfl hitem
      next => rfl
  | object =>
      have hopening : skipSpace ('\x7b' :: rest) = '\x7b' :: rest := rfl
      simp only [Bracket.opening, hopening]
      split
      next heq => rw [heq] at hitem; exact absurd rfl hitem
      next => rfl

theorem skipOpen_empty {inner : List Char} (hinner : IsBlank inner) :
    skipOpen (steps + 1) true opened
        (blank ++ bracket.opening :: (inner ++ bracket.closing :: rest)) =
      skipOpen steps false opened rest := by
  rw [skipOpen, skipSpace_append hblank]
  cases bracket with
  | array =>
      have hopening (chars : List Char) : skipSpace ('[' :: chars) = '[' :: chars := rfl
      have hclosing : skipSpace (inner ++ ']' :: rest) = ']' :: rest := skipSpace_append hinner _
      simp only [Bracket.opening, Bracket.closing, hopening, hclosing]
  | object =>
      have hopening (chars : List Char) : skipSpace ('\x7b' :: chars) = '\x7b' :: chars := rfl
      have hclosing : skipSpace (inner ++ '\x7d' :: rest) = '\x7d' :: rest :=
        skipSpace_append hinner _
      simp only [Bracket.opening, Bracket.closing, hopening, hclosing]

theorem skipOpen_comma :
    skipOpen (steps + 1) false (bracket :: opened) (blank ++ ',' :: rest) =
      skipItem opened bracket rest steps := by
  have hcomma : skipSpace (blank ++ ',' :: rest) = ',' :: rest := skipSpace_append hblank _
  unfold skipOpen
  rw [hcomma]
  cases bracket <;> rfl

theorem skipOpen_closing :
    skipOpen (steps + 1) false (bracket :: opened) (blank ++ bracket.closing :: rest) =
      skipOpen steps false opened rest := by
  conv_lhs => unfold skipOpen
  rw [skipSpace_append hblank]
  cases bracket <;> rfl

theorem skipOpen_scalar {chars : List Char} (hbegins : Begins chars)
    (harray : chars.head? ≠ some '[') (hobject : chars.head? ≠ some '\x7b')
    (hscalar : skipScalar (chars ++ rest) = .ok rest) :
    skipOpen (steps + 1) true opened (blank ++ (chars ++ rest)) =
      skipOpen steps false opened rest := by
  rw [skipOpen, skipSpace_append hblank, skipSpace_of_begins hbegins]
  obtain ⟨first, hfirst, _⟩ := hbegins
  obtain ⟨tail, rfl⟩ := List.head?_eq_some_iff.mp hfirst
  rw [List.cons_append] at hscalar ⊢
  split
  next heq => exact absurd (congrArg some (List.cons.inj heq).1) harray
  next heq => exact absurd (congrArg some (List.cons.inj heq).1) hobject
  next => rw [hscalar]; rfl

end Moves

/-! ### Any value -/

/-- From `start` with some characters ahead, a walk comes to `stop` with fewer ahead, in as many
steps as it takes characters or less. -/
def Leads (start : Nat → Except Fault (List Char)) (ahead : Nat)
    (stop : Nat → Except Fault (List Char)) (left : Nat) : Prop :=
  ∃ count, count + left ≤ ahead ∧ ∀ steps, start (steps + count) = stop steps

section Leads

variable {first second third : Nat → Except Fault (List Char)} {ahead middle left : Nat}

theorem Leads.trans (hfirst : Leads first ahead second middle)
    (hsecond : Leads second middle third left) : Leads first ahead third left := by
  obtain ⟨before, hbefore, hleads⟩ := hfirst
  obtain ⟨after, hafter, hgoes⟩ := hsecond
  refine ⟨after + before, by omega, ?_⟩
  intro steps
  rw [← Nat.add_assoc, hleads, hgoes]

theorem leads_of_step (hstep : ∀ steps, first (steps + 1) = second steps) (hlt : left < ahead) :
    Leads first ahead second left :=
  ⟨1, by omega, hstep⟩

theorem leads_of_eq (heq : ∀ steps, first steps = second steps) (hle : left ≤ ahead) :
    Leads first ahead second left :=
  ⟨0, by omega, heq⟩

end Leads

/-- Wherever a value is due, the walk passes the text and whatever brackets are open. -/
def IsPassed (chars : List Char) : Prop :=
  ∀ (opened : List Bracket) (blank rest : List Char), IsBlank blank → Ends rest →
    Leads (fun steps => skipOpen steps true opened (blank ++ (chars ++ rest)))
      (blank ++ (chars ++ rest)).length (fun steps => skipOpen steps false opened rest) rest.length

/-- The same for an item of a bracket, with its name if it has one. -/
def IsPassedIn (bracket : Bracket) (chars : List Char) : Prop :=
  ∀ (opened : List Bracket) (blank rest : List Char), IsBlank blank → Ends rest →
    Leads (skipItem opened bracket (blank ++ (chars ++ rest))) (blank ++ (chars ++ rest)).length
      (fun steps => skipOpen steps false (bracket :: opened) rest) rest.length

theorem IsPassed.item {chars : List Char} (hpassed : IsPassed chars) : IsPassedIn .array chars :=
  fun opened blank rest hblank hends => hpassed (.array :: opened) blank rest hblank hends

theorem IsPassed.member {member : Member} (hbody : IsBody member.body)
    (hbefore : IsBlank member.before) (hafter : IsBlank member.after)
    (hpassed : IsPassed member.value) : IsPassedIn .object member.chars := by
  intro opened blank rest hblank hends
  have hname (steps : Nat) : skipItem opened .object (blank ++ (member.chars ++ rest)) steps =
      skipOpen steps true (.object :: opened) (member.after ++ (member.value ++ rest)) := by
    rw [skipItem, skipName_of_member hbody hbefore hblank]
    rfl
  refine (leads_of_eq hname ?_).trans (hpassed (.object :: opened) _ rest hafter hends)
  simp only [Member.chars, quoted, List.length_append, List.length_cons]
  omega

/-- All items up to the closing bracket. -/
theorem leads_of_joined {bracket : Bracket} {parts : List (List Char)} {chars : List Char}
    (hjoined : Joined bracket.closing parts chars)
    (hparts : ∀ part ∈ parts, IsPassedIn bracket part) (opened : List Bracket)
    (rest : List Char) :
    Leads (skipItem opened bracket (chars ++ rest)) (chars ++ rest).length
      (fun steps => skipOpen steps false opened rest) rest.length := by
  have hclosing : bracket.closing ∈ delimiters := by cases bracket <;> decide
  induction hjoined with
  | @last before part after hbefore hafter =>
      have hitem := hparts part List.mem_cons_self opened before
        (after ++ bracket.closing :: rest) hbefore (ends_append hafter hclosing rest)
      have hclosed : Leads
          (fun steps => skipOpen steps false (bracket :: opened)
            (after ++ bracket.closing :: rest))
          (after ++ bracket.closing :: rest).length (fun steps => skipOpen steps false opened rest)
          rest.length :=
        leads_of_step (skipOpen_closing hafter opened bracket rest) (by simp; omega)
      simpa using hitem.trans hclosed
  | @more before part after chars parts hbefore hafter _ ih =>
      have hitem := hparts part List.mem_cons_self opened before
        (after ++ ',' :: (chars ++ rest)) hbefore (ends_append hafter (by decide) _)
      have hcomma : Leads
          (fun steps => skipOpen steps false (bracket :: opened) (after ++ ',' :: (chars ++ rest)))
          (after ++ ',' :: (chars ++ rest)).length (skipItem opened bracket (chars ++ rest))
          (chars ++ rest).length :=
        leads_of_step (skipOpen_comma hafter opened bracket (chars ++ rest)) (by simp; omega)
      have hothers := ih fun other hother => hparts other (List.mem_cons_of_mem _ hother)
      simpa using (hitem.trans hcomma).trans hothers

theorem isPassed_of_enclosed (bracket : Bracket) {parts : List (List Char)} {chars : List Char}
    (henclosed : Enclosed bracket.opening bracket.closing parts chars)
    (hbegins : ∀ part ∈ parts, Begins part) (hparts : ∀ part ∈ parts, IsPassedIn bracket part) :
    IsPassed chars := by
  have hclosing : bracket.closing ∈ blanks ++ delimiters := by cases bracket <;> decide
  intro opened blank rest hblank _
  cases henclosed with
  | @empty inner hinner =>
      refine leads_of_step (fun steps => ?_) (by simp; omega)
      simpa using skipOpen_empty hblank opened bracket rest steps hinner
  | @filled _ chars hjoined =>
      have hopened : Leads
          (fun steps => skipOpen steps true opened (blank ++ bracket.opening :: (chars ++ rest)))
          (blank ++ bracket.opening :: (chars ++ rest)).length
          (skipItem opened bracket (chars ++ rest)) (chars ++ rest).length := by
        refine leads_of_step (fun steps => ?_) (by simp; omega)
        exact skipOpen_opening hblank opened bracket _ steps
          ((hjoined.begins hbegins rest).head?_ne hclosing)
      exact hopened.trans (leads_of_joined hjoined hparts opened rest)

theorem isPassed_of_scalar {chars : List Char} (hbegins : Begins chars)
    (harray : chars.head? ≠ some '[') (hobject : chars.head? ≠ some '\x7b')
    (hscalar : ∀ rest, Ends rest → skipScalar (chars ++ rest) = .ok rest) : IsPassed chars := by
  intro opened blank rest hblank hends
  refine leads_of_step (fun steps => ?_) ?_
  · exact skipOpen_scalar hblank opened rest steps hbegins harray hobject (hscalar rest hends)
  · obtain ⟨first, hfirst, _⟩ := hbegins
    obtain ⟨tail, rfl⟩ := List.head?_eq_some_iff.mp hfirst
    simp
    omega

theorem isPassed_of_isValue {chars : List Char} (hvalue : IsValue chars) : IsPassed chars := by
  induction hvalue with
  | @word chars hword =>
      simp only [List.mem_cons, List.not_mem_nil, or_false] at hword
      rcases hword with rfl | rfl | rfl <;>
        exact isPassed_of_scalar (begins_cons (by decide) _) (by decide) (by decide)
          fun rest _ => by simp [skipScalar, skipWord]
  | number hnumber =>
      have hskipped (rest : List Char) (hends : Ends rest) := skipScalar_of_isNumber hnumber hends
      have hbegins := begins_of_isValue (.number hnumber)
      obtain ⟨first, tail, rfl, hfirst⟩ := exists_cons_of_isNumber hnumber
      refine isPassed_of_scalar hbegins ?_ ?_ hskipped
      · rintro heq
        obtain rfl : first = '[' := Option.some.inj heq
        simp at hfirst
      · rintro heq
        obtain rfl : first = '\x7b' := Option.some.inj heq
        simp at hfirst
  | @string body hbody =>
      refine isPassed_of_scalar (begins_of_isValue (.string hbody)) (by simp [quoted])
        (by simp [quoted]) ?_
      intro rest _
      have hskipped := skipQuoted_of_isBody hbody rest
      simpa [quoted, skipScalar] using hskipped
  | array henclosed hitems ih =>
      exact isPassed_of_enclosed .array henclosed
        (fun item hitem => begins_of_isValue (hitems item hitem)) fun item hitem =>
          (ih item hitem).item
  | @object members _ henclosed hnames _ ih =>
      refine isPassed_of_enclosed .object henclosed ?_ ?_
      · rw [List.forall_mem_map]
        exact fun member _ => begins_cons (by decide) _
      · rw [List.forall_mem_map]
        intro member hmember
        obtain ⟨hbody, hbefore, hafter⟩ := hnames member hmember
        exact (ih member hmember).member hbody hbefore hafter

/-- The walk over one value ends right after it. -/
theorem skipValue_of_isValue {chars blank rest : List Char} (hvalue : IsValue chars)
    (hblank : IsBlank blank) (hends : Ends rest) :
    skipValue (blank ++ (chars ++ rest)) = .ok rest := by
  obtain ⟨count, hcount, hleads⟩ := isPassed_of_isValue hvalue [] blank rest hblank hends
  have hsteps : (blank ++ (chars ++ rest)).length + 1 =
      (blank ++ (chars ++ rest)).length + 1 - count + count := by
    omega
  rw [skipValue, hsteps]
  exact (hleads _).trans (by simp [skipOpen])

end CameraHotplug.Json
