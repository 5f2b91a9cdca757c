import DelimiterScan.Proofs.Pattern.Pasting
import DelimiterScan.Regex.Source.Group

/-!
# Openings of groups with a parenthesis behind them

Where the letters of switches end with the source, the parenthesis ends them as switches. Any other
opening is read the same with the parenthesis behind it.
-/

namespace DelimiterScan.Regex.Source

variable {loose : Prop} {cs cs' : List Char} {mode : Mode}

/-! ## Names -/

theorem leaves_readName (first : Bool) (cs : List Char) :
    Leaves Prod.mk cs.length (readName first cs) := by
  induction cs generalizing first with
  | nil => exact .error
  | cons c cs ih =>
    unfold readName
    split
    · split
      · exact .error
      · exact .ok (Nat.le_succ _)
    · split
      · exact .error
      · exact (ih false).bind fun name rest hrest => .ok (Nat.le_succ_of_le hrest)

theorem readName_closing (first : Bool) : readName first [')'] = .error .groupName := by
  rw [readName, if_neg (by decide)]
  split <;> rfl

theorem follows_readName (h : Pasted loose cs cs') (first : Bool) :
    Follows loose Prod.mk Never (readName first cs) (readName first cs') := by
  induction h generalizing first with
  | nil =>
    rw [readName_closing]
    exact .failed
  | @cons c cs cs' h hlast ih =>
    unfold readName
    split
    · split
      · exact .failed
      · exact .same h
    · split
      · exact .failed
      · exact (ih false).bind (fun name rest rest' _ hrest => .same hrest)
          (fun hloose name => .swallowed hloose) nofun

/-! ## Switches -/

section Switches

variable {seen : List Char} {off dangling : Bool} {c : Char}

theorem readSwitches_colon (cs : List Char) :
    readSwitches mode seen off dangling (':' :: cs) =
      if dangling then .error .groupFlags else .ok (.group mode none, cs) :=
  rfl

theorem readSwitches_closing (cs : List Char) :
    readSwitches mode seen off dangling (')' :: cs) =
      if dangling then .error .groupFlags
      else if seen.isEmpty then .error .repetitionMissing
      else .ok (.switches mode, cs) :=
  rfl

theorem readSwitches_hyphen (cs : List Char) :
    readSwitches mode seen off dangling ('-' :: cs) =
      if off then .error .groupFlags else readSwitches mode seen true true cs :=
  rfl

/-- Reads a letter of a switch. -/
theorem readSwitches_letter (hcolon : c ≠ ':') (hclosing : c ≠ ')') (hhyphen : c ≠ '-')
    (cs : List Char) :
    readSwitches mode seen off dangling (c :: cs) =
      match mode.turn? c !off with
      | none => .error .groupFlags
      | some mode =>
        if seen.contains c then .error .groupFlags
        else readSwitches mode (c :: seen) off false cs := by
  conv => lhs; unfold readSwitches
  split
  · next heq => cases heq
  · next heq =>
    cases heq
    exact absurd rfl hcolon
  · next heq =>
    cases heq
    exact absurd rfl hclosing
  · next heq =>
    cases heq
    exact absurd rfl hhyphen
  · next heq =>
    cases heq
    rfl

theorem leaves_readSwitches :
    Leaves Prod.mk cs.length (readSwitches mode seen off dangling cs) := by
  induction cs generalizing mode seen off dangling with
  | nil => exact .error
  | cons c cs ih =>
    by_cases hcolon : c = ':'
    · subst hcolon
      rw [readSwitches_colon]
      split
      · exact .error
      · exact .ok (Nat.le_succ _)
    by_cases hclosing : c = ')'
    · subst hclosing
      rw [readSwitches_closing]
      split
      · exact .error
      · split
        · exact .error
        · exact .ok (Nat.le_succ _)
    by_cases hhyphen : c = '-'
    · subst hhyphen
      rw [readSwitches_hyphen]
      split
      · exact .error
      · exact ih.mono (Nat.le_succ _)
    rw [readSwitches_letter hcolon hclosing hhyphen]
    split
    · exact .error
    · split
      · exact .error
      · exact ih.mono (Nat.le_succ _)

theorem follows_readSwitches (h : Pasted loose cs cs') :
    Follows loose Prod.mk Spent (readSwitches mode seen off dangling cs)
      (readSwitches mode seen off dangling cs') := by
  induction h generalizing mode seen off dangling with
  | nil =>
    rw [readSwitches_closing]
    split
    · exact .failed
    · split
      · exact .failed
      · exact .lost rfl
  | @cons c cs cs' h hlast ih =>
    by_cases hcolon : c = ':'
    · subst hcolon
      rw [readSwitches_colon, readSwitches_colon]
      split
      · exact .failed
      · exact .same h
    by_cases hclosing : c = ')'
    · subst hclosing
      rw [readSwitches_closing, readSwitches_closing]
      split
      · exact .failed
      · split
        · exact .failed
        · exact .same h
    by_cases hhyphen : c = '-'
    · subst hhyphen
      rw [readSwitches_hyphen, readSwitches_hyphen]
      split
      · exact .failed
      · exact ih
    rw [readSwitches_letter hcolon hclosing hhyphen, readSwitches_letter hcolon hclosing hhyphen]
    split
    · exact .failed
    · split
      · exact .failed
      · exact ih

end Switches

/-! ## Openings -/

theorem leaves_readMarked (mode : Mode) (cs : List Char) :
    Leaves Prod.mk cs.length (readMarked mode cs) := by
  have hname (cs : List Char) : Leaves Prod.mk cs.length (readName true cs >>= fun named =>
      .ok (Opening.group mode (some named.1), named.2)) :=
    (leaves_readName true cs).bind fun name rest hrest => .ok hrest
  unfold readMarked
  split
  · exact .error
  · exact .error
  · exact .error
  · exact .error
  · next cs =>
    exact (hname cs).mono (Nat.le_succ_of_le (Nat.le_succ _))
  · next cs _ _ =>
    exact (hname cs).mono (Nat.le_succ _)
  · exact leaves_readSwitches

theorem readMarked_name (cs : List Char) :
    readMarked mode ('P' :: '<' :: cs) =
      readName true cs >>= fun named => .ok (.group mode (some named.1), named.2) :=
  rfl

theorem readMarked_angle (h : cs.head? ≠ some '=' ∧ cs.head? ≠ some '!') :
    readMarked mode ('<' :: cs) =
      readName true cs >>= fun named => .ok (.group mode (some named.1), named.2) := by
  unfold readMarked
  split
  · next heq => cases heq
  · next heq => cases heq
  · next heq =>
    cases heq
    exact absurd rfl h.1
  · next heq =>
    cases heq
    exact absurd rfl h.2
  · next heq => cases heq
  · next heq =>
    cases heq
    rfl
  · next hne => exact absurd rfl (hne cs)

/-- Reads switches where nothing else can begin. -/
theorem readMarked_switches {c : Char} (hequal : c ≠ '=') (hbang : c ≠ '!') (hangle : c ≠ '<')
    (hname : c = 'P' → cs.head? ≠ some '<') :
    readMarked mode (c :: cs) = readSwitches mode [] false false (c :: cs) := by
  unfold readMarked
  split
  · next heq =>
    cases heq
    exact absurd rfl hequal
  · next heq =>
    cases heq
    exact absurd rfl hbang
  · next heq =>
    cases heq
    exact absurd rfl hangle
  · next heq =>
    cases heq
    exact absurd rfl hangle
  · next heq =>
    cases heq
    exact absurd rfl (hname rfl)
  · next heq =>
    cases heq
    exact absurd rfl hangle
  · rfl

theorem follows_readMarked (h : Pasted loose cs cs') (mode : Mode) :
    Follows loose Prod.mk Spent (readMarked mode cs) (readMarked mode cs') := by
  have hname {cs cs' : List Char} (h : Pasted loose cs cs') :
      Follows loose Prod.mk Spent
        (readName true cs >>= fun named => .ok (Opening.group mode (some named.1), named.2))
        (readName true cs' >>= fun named => .ok (Opening.group mode (some named.1), named.2)) :=
    (follows_readName h true).bind (fun name rest rest' _ hrest => .same hrest)
      (fun hloose name => .swallowed hloose) nofun
  cases h with
  | nil => exact .failed
  | @cons c cs cs' h hlast =>
    by_cases hequal : c = '='
    · subst hequal
      exact .failed
    by_cases hbang : c = '!'
    · subst hbang
      exact .failed
    by_cases hangle : c = '<'
    · subst hangle
      rcases h with _ | @⟨d, cs, cs', hcs, hlast'⟩
      · rw [readMarked_angle (by simp), readMarked_angle (by decide)]
        exact hname .nil
      · by_cases hd : d = '=' ∨ d = '!'
        · rcases hd with rfl | rfl <;> exact .failed
        · rw [not_or] at hd
          rw [readMarked_angle (by simpa using hd), readMarked_angle (by simpa using hd)]
          exact hname (.cons hcs hlast')
    by_cases hnamed : c = 'P' ∧ cs.head? = some '<'
    · obtain ⟨rfl, hhead⟩ := hnamed
      rcases h with _ | @⟨d, cs, cs', hcs, -⟩
      · cases hhead
      · cases hhead
        rw [readMarked_name, readMarked_name]
        exact hname hcs
    · have hnamed' : c = 'P' → cs'.head? ≠ some '<' :=
        fun hc hhead => hnamed ⟨hc, (h.head?_eq_iff (by decide)).mpr hhead⟩
      rw [readMarked_switches hequal hbang hangle fun hc hhead => hnamed ⟨hc, hhead⟩,
        readMarked_switches hequal hbang hangle hnamed']
      exact follows_readSwitches (.cons h hlast)

theorem readOpening_marked (h : skip mode.ignoreWhitespace cs = '?' :: cs') :
    readOpening mode cs = readMarked mode cs' := by
  unfold readOpening
  rw [h]
  rfl

theorem readOpening_of_ne (h : (skip mode.ignoreWhitespace cs).head? ≠ some '?') :
    readOpening mode cs = .ok (.group mode none, skip mode.ignoreWhitespace cs) := by
  unfold readOpening
  split
  · next heq =>
    rw [heq] at h
    exact absurd rfl h
  · rfl

theorem leaves_readOpening (mode : Mode) (cs : List Char) :
    Leaves Prod.mk cs.length (readOpening mode cs) := by
  have hskip := length_skip_le mode.ignoreWhitespace cs
  by_cases h : (skip mode.ignoreWhitespace cs).head? = some '?'
  · obtain ⟨rest, hrest⟩ := List.head?_eq_some_iff.mp h
    rw [hrest, List.length_cons] at hskip
    rw [readOpening_marked hrest]
    exact (leaves_readMarked mode rest).mono (Nat.le_of_succ_le hskip)
  · rw [readOpening_of_ne h]
    exact .ok hskip

theorem follows_readOpening (h : Pasted loose cs cs') (mode : Mode) :
    Follows loose Prod.mk Spent (readOpening mode cs) (readOpening mode cs') := by
  rcases pasted_skip h mode.ignoreWhitespace with hskip | ⟨hloose, hnil, hnil'⟩
  · by_cases hhead : (skip mode.ignoreWhitespace cs).head? = some '?'
    · obtain ⟨rest, hrest⟩ := List.head?_eq_some_iff.mp hhead
      obtain ⟨rest', hrest'⟩ :=
        List.head?_eq_some_iff.mp ((hskip.head?_eq_iff (by decide)).mp hhead)
      rw [hrest, hrest'] at hskip
      rw [readOpening_marked hrest, readOpening_marked hrest']
      cases hskip with
      | cons hskip _ => exact follows_readMarked hskip mode
    · rw [readOpening_of_ne hhead,
        readOpening_of_ne (hskip.head?_ne (by decide) hhead)]
      exact .same hskip
  · rw [readOpening_of_ne (by simp [hnil]), readOpening_of_ne (by simp [hnil']), hnil, hnil']
    exact .swallowed hloose

end DelimiterScan.Regex.Source
