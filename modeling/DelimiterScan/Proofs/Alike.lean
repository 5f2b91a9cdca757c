import DelimiterScan.Cache
import DelimiterScan.Proofs.Reaction
import DelimiterScan.Proofs.Resolve

/-!
# Scans that agree

Of its delimiters a scan reads which one matches first, and nothing else. Two lists are searched
alike if they name the same delimiters in the same order of first occurrence; repeats are never
reached. So scans with the same keys in that order, and options with the same fingerprint, differ
in what they echo only (`scan_eq_echo`). Where no literal begins another one, one of them at most
stands at a place, and their order makes no difference either (`sameOutcome_of_prefixFree`).
-/

namespace DelimiterScan

namespace Plan

variable {p q : Plan} {s : State} {cur : Cursor}

/-- Two plans with the same tables that find the same matches. -/
structure Alike (p q : Plan) : Prop where
  blocks : p.options.blocks = q.options.blocks
  quotes : p.options.quotes = q.options.quotes
  comments : p.options.comments = q.options.comments
  limit : p.options.limit = q.options.limit
  preserve : p.options.preserveDelimiters = q.options.preserveDelimiters
  empty : p.delims.isEmpty = q.delims.isEmpty
  delims : ∀ cur buffer,
    Delimiter.firstMatch? p.delims cur buffer p.options.caseInsensitive =
      Delimiter.firstMatch? q.delims cur buffer q.options.caseInsensitive
  stops : ∀ cur buffer,
    Delimiter.firstMatch? p.stops cur buffer p.options.caseInsensitive =
      Delimiter.firstMatch? q.stops cur buffer q.options.caseInsensitive

theorem Alike.inText (h : p.Alike q) (s : State) (cur : Cursor) (c : String) :
    p.inText s cur c = q.inText s cur c := by
  have hstop : ∀ s, p.stop? s cur = q.stop? s cur := by
    intro s
    rw [stop?, stop?, h.stops]
  have hcut : ∀ s, p.atDelimiter s cur c = q.atDelimiter s cur c := by
    intro s
    simp only [atDelimiter, h.delims, h.preserve]
  unfold Plan.inText
  rw [h.blocks, h.empty]
  simp only [hstop, hcut]

theorem Alike.step (h : p.Alike q) (s : State) (cur : Cursor) : p.step s cur = q.step s cur := by
  unfold Plan.step quoteAt commentAt proceed
  simp only [h.quotes, h.comments, h.limit, h.inText]

theorem Alike.run (h : p.Alike q) (n : Nat) (s : State) (cur : Cursor) :
    p.run n s cur = q.run n s cur := by
  induction n generalizing s cur with
  | zero => rfl
  | succ n ih =>
    rw [Plan.run, Plan.run, h.step]
    cases q.step s cur with
    | finished s => rfl
    | advanced s cur => exact ih s cur

theorem Alike.finalState (h : p.Alike q) (input : String) :
    p.finalState input = q.finalState input := by
  rw [Plan.finalState, Plan.finalState, h.run]

end Plan

/-! ## Searches through delimiters -/

namespace Delimiter

variable {ds es : List Delimiter}

/-- Any search finds the same in both lists. -/
def SameFinds (ds es : List Delimiter) : Prop :=
  ∀ {β : Type} (f : Delimiter → Option β), ds.findSome? f = es.findSome? f

theorem SameFinds.isEmpty (h : SameFinds ds es) : ds.isEmpty = es.isEmpty := by
  have hsome := h fun _ => some ()
  cases ds <;> cases es
  · rfl
  · simp at hsome
  · simp at hsome
  · rfl

/-- The keys in the order of their first occurrences. -/
def keyOrder (ds : List Delimiter) : List Key := (ds.map key).eraseDups

/-- Predicates of the same identity are the same function. -/
def Consistent (ds : List Delimiter) : Prop :=
  ∀ p q : Predicate, predicate p ∈ ds → predicate q ∈ ds → p.identity = q.identity →
    p.test = q.test

theorem Consistent.mono (h : Consistent es) (hsub : ds ⊆ es) : Consistent ds :=
  fun p q hp hq => h p q (hsub hp) (hsub hq)

theorem Consistent.eq_of_key (h : Consistent ds) {d e : Delimiter} (hd : d ∈ ds) (he : e ∈ ds)
    (hkey : d.key = e.key) : d = e := by
  cases d <;> cases e <;> simp only [key, reduceCtorEq, Key.literal.injEq, Key.pattern.injEq,
    Key.predicate.injEq] at hkey
  case literal.literal => rw [hkey]
  case pattern.pattern => rw [Pattern.ext hkey.1 hkey.2]
  case predicate.predicate p q =>
    have htest := h p q hd he hkey
    cases p
    cases q
    simp only at hkey htest
    rw [hkey, htest]

/-- Repeats of an element are never reached by a search. -/
theorem findSome?_eraseDups {α β : Type} [BEq α] [LawfulBEq α] (f : α → Option β) (xs : List α) :
    xs.eraseDups.findSome? f = xs.findSome? f := by
  induction hn : xs.length using Nat.strongRecOn generalizing xs with
  | ind n ih =>
    subst hn
    cases xs with
    | nil => rfl
    | cons x xs =>
      have hlen : (xs.filter fun y => !y == x).length < (x :: xs).length :=
        Nat.lt_succ_of_le (List.length_filter_le _ _)
      rw [List.eraseDups_cons, List.findSome?_cons, List.findSome?_cons, ih _ hlen _ rfl]
      cases hx : f x with
      | some y => rfl
      | none =>
        -- `f` has found nothing at `x`, so it finds nothing at the repeats that are left out.
        have hskip : (fun y => if (!y == x) = true then f y else none) = f := by
          funext y
          by_cases hy : y = x
          · simp [hy, hx]
          · simp [hy]
        rw [← List.head?_filterMap, List.filterMap_filter, hskip, List.head?_filterMap]

theorem findSome?_congr {α β : Type} {f g : α → Option β} {xs : List α}
    (h : ∀ x ∈ xs, f x = g x) : xs.findSome? f = xs.findSome? g := by
  induction xs with
  | nil => rfl
  | cons x xs ih =>
    rw [List.findSome?_cons, List.findSome?_cons, h x List.mem_cons_self,
      ih fun y hy => h y (List.mem_cons_of_mem x hy)]

theorem Consistent.sameFinds (h : Consistent (ds ++ es)) (horder : keyOrder ds = keyOrder es) :
    SameFinds ds es := by
  intro β f
  -- Where keys determine delimiters, a search is a search through the keys.
  let g : Key → Option β := fun k => ((ds ++ es).find? (·.key = k)).bind f
  have hg : ∀ d ∈ ds ++ es, g d.key = f d := by
    intro d hd
    obtain ⟨e, he⟩ : ∃ e, (ds ++ es).find? (·.key = d.key) = some e := by
      rw [← Option.isSome_iff_exists, List.find?_isSome]
      exact ⟨d, hd, by simp⟩
    have hkey : e.key = d.key := by simpa using List.find?_some he
    have hsame : e = d := h.eq_of_key (List.mem_of_find?_eq_some he) hd hkey
    calc g d.key = (some e).bind f := congrArg (Option.bind · f) he
      _ = f d := congrArg f hsame
  have hkeys : ∀ l, l ⊆ ds ++ es → l.findSome? f = (keyOrder l).findSome? g := by
    intro l hl
    rw [keyOrder, findSome?_eraseDups, List.findSome?_map]
    exact findSome?_congr fun d hd => (hg d (hl hd)).symm
  rw [hkeys ds (List.subset_append_left _ _), hkeys es (List.subset_append_right _ _), horder]

end Delimiter

namespace Plan

variable {ds es : List Delimiter}

/-- Lists that are searched alike resolve alike: with the same error, or to lists that are
searched alike again. -/
theorem resolve_of_sameFinds (h : Delimiter.SameFinds ds es) (flags : Option Regex.Flags) :
    (∃ e, resolve flags ds = .error e ∧ resolve flags es = .error e) ∨
      ∃ ds' es', resolve flags ds = .ok ds' ∧ resolve flags es = .ok es' ∧
        Delimiter.SameFinds ds' es' := by
  rw [resolve_eq, resolve_eq, h]
  cases es.findSome? (Delimiter.fault? flags) with
  | some e => exact .inl ⟨e, rfl, rfl⟩
  | none =>
    refine .inr ⟨_, _, rfl, rfl, fun f => ?_⟩
    rw [← List.head?_filterMap, ← List.head?_filterMap, List.filterMap_filterMap,
      List.filterMap_filterMap, List.head?_filterMap, List.head?_filterMap, h]

/-- Requests that are searched alike, with options of one fingerprint, have plans that scan alike,
or fail with the same error. -/
theorem make_of_sameFinds {o o' : Options} (h : Delimiter.SameFinds ds es)
    (hstops : Delimiter.SameFinds o.stops o'.stops) (hprint : o.fingerprint = o'.fingerprint) :
    (∃ e, Plan.make o ds = .error e ∧ Plan.make o' es = .error e) ∨
      ∃ p q, Plan.make o ds = .ok p ∧ Plan.make o' es = .ok q ∧ p.Alike q := by
  have hflags : o.useRegex = o'.useRegex := congrArg Options.Fingerprint.useRegex hprint
  have hcase : o.caseInsensitive = o'.caseInsensitive :=
    congrArg Options.Fingerprint.caseInsensitive hprint
  simp only [Plan.make, hflags]
  rcases resolve_of_sameFinds h o'.useRegex with ⟨e, hds, hes⟩ | ⟨ds', es', hds, hes, hsame⟩
  · exact .inl ⟨e, by rw [hds]; rfl, by rw [hes]; rfl⟩
  rcases resolve_of_sameFinds hstops o'.useRegex with ⟨e, hss, hts⟩ | ⟨ss, ts, hss, hts, hsame'⟩
  · exact .inl ⟨e, by rw [hds, hss]; rfl, by rw [hes, hts]; rfl⟩
  refine .inr ⟨⟨o, ds', ss⟩, ⟨o', es', ts⟩, by rw [hds, hss]; rfl, by rw [hes, hts]; rfl, ?_⟩
  constructor
  · exact congrArg Options.Fingerprint.blocks hprint
  · exact congrArg Options.Fingerprint.quotes hprint
  · exact congrArg Options.Fingerprint.comments hprint
  · exact congrArg Options.Fingerprint.limit hprint
  · exact congrArg Options.Fingerprint.preserveDelimiters hprint
  · exact hsame.isEmpty
  · intro cur buffer
    simp only [Delimiter.firstMatch?, hcase, hsame _]
  · intro cur buffer
    simp only [Delimiter.firstMatch?, hcase, hsame' _]

end Plan

def ScanResult.echo (r : ScanResult) (delims : List Delimiter) (options : Options) : ScanResult :=
  { r with delims, options }

/-- The order of the keys and the fingerprint decide a scan, except for what it echoes. -/
theorem scan_eq_echo {ds es : List Delimiter} {o o' : Options} (input : String)
    (hcons : Delimiter.Consistent (ds ++ o.stops ++ (es ++ o'.stops)))
    (horder : Delimiter.keyOrder ds = Delimiter.keyOrder es)
    (hprint : o.fingerprint = o'.fingerprint) :
    scan input o ds = (scan input o' es).map (·.echo ds o) := by
  have hstops : Delimiter.keyOrder o.stops = Delimiter.keyOrder o'.stops :=
    congrArg List.eraseDups (congrArg Options.Fingerprint.stops hprint)
  have hsame : Delimiter.SameFinds ds es :=
    (hcons.mono fun d hd => by grind).sameFinds horder
  have hsame' : Delimiter.SameFinds o.stops o'.stops :=
    (hcons.mono fun d hd => by grind).sameFinds hstops
  rcases Plan.make_of_sameFinds hsame hsame' hprint with
    ⟨e, hmake, hmake'⟩ | ⟨p, q, hmake, hmake', halike⟩
  · rw [scan_of_make_error hmake, scan_of_make_error hmake']
    rfl
  · rw [scan_of_make hmake, scan_of_make hmake', halike.finalState, State.verdict, State.verdict]
    cases (q.finalState input).nesting <;> rfl

/-- Both scans fail with the same error, or both have results that differ in what they echo only. -/
inductive SameOutcome : Except ScanError ScanResult → Except ScanError ScanResult → Prop
  | failed (e : ScanError) : SameOutcome (.error e) (.error e)
  | scanned {r r' : ScanResult} (tokens : r.tokens = r'.tokens) (cuts : r.cuts = r'.cuts)
      (cutsAt : r.cutsAt = r'.cutsAt) (comments : r.comments = r'.comments)
      (maxDepth : r.maxDepth = r'.maxDepth) (nesting : r.nesting = r'.nesting)
      (stop : r.stop = r'.stop) : SameOutcome (.ok r) (.ok r')

theorem SameOutcome.of_finalState {ds es : List Delimiter} {o o' : Options} {p q : Plan}
    {input : String} (hp : Plan.make o ds = .ok p) (hq : Plan.make o' es = .ok q)
    (h : p.finalState input = q.finalState input) :
    SameOutcome (scan input o ds) (scan input o' es) := by
  rw [scan_of_make hp, scan_of_make hq, h, State.verdict, State.verdict]
  cases (q.finalState input).nesting with
  | nil => exact .scanned rfl rfl rfl rfl rfl rfl rfl
  | cons k outer => exact .failed _

theorem SameOutcome.of_echo (outcome : Except ScanError ScanResult) (delims : List Delimiter)
    (options : Options) : SameOutcome (outcome.map (·.echo delims options)) outcome := by
  cases outcome with
  | error e => exact .failed e
  | ok r => exact .scanned rfl rfl rfl rfl rfl rfl rfl

/-- What a cache compares decides a scan, as far as the keys are in the same order: neither repeats
of a delimiter nor anything that the fingerprint leaves out makes a difference. -/
theorem sameOutcome_of_keyOrder {ds es : List Delimiter} {o o' : Options} (input : String)
    (hcons : Delimiter.Consistent (ds ++ o.stops ++ (es ++ o'.stops)))
    (horder : Delimiter.keyOrder ds = Delimiter.keyOrder es)
    (hprint : o.fingerprint = o'.fingerprint) :
    SameOutcome (scan input o ds) (scan input o' es) := by
  rw [scan_eq_echo input hcons horder hprint]
  exact .of_echo (scan input o' es) ds o

/-- Stands wherever there are three tokens. -/
def thirdToken : Predicate where
  identity := 3
  test _ _ tokens := if tokens.size = 3 then some "" else none

def untilThird : Options := { stops := [.predicate thirdToken], useRegex := some {} }

def commaAgain : List Delimiter := [.literal ",", .predicate thirdToken, .literal ","]

def eachTwice : List Delimiter :=
  [.literal ",", .literal ",", .predicate thirdToken, .predicate thirdToken]

/-- Neither repeats nor the switch for caching change where a scan cuts and stops. -/
theorem sameOutcome_with_repeats :
    Delimiter.Consistent (commaAgain ++ untilThird.stops ++ (eachTwice ++ untilThird.stops)) ∧
    Delimiter.keyOrder commaAgain = Delimiter.keyOrder eachTwice ∧
    untilThird.fingerprint = { untilThird with cache := false }.fingerprint ∧
    SameOutcome (scan "a,b,cde" untilThird commaAgain)
      (scan "a,b,cde" { untilThird with cache := false } eachTwice) ∧
    (scan "a,b,cde" untilThird commaAgain).toOption.map (·.texts) = some ["a", "b", "", ""] := by
  have hcons : Delimiter.Consistent
      (commaAgain ++ untilThird.stops ++ (eachTwice ++ untilThird.stops)) := by
    intro p q hp hq _
    obtain rfl : p = thirdToken := by simpa [commaAgain, eachTwice, untilThird] using hp
    obtain rfl : q = thirdToken := by simpa [commaAgain, eachTwice, untilThird] using hq
    rfl
  have horder : Delimiter.keyOrder commaAgain = Delimiter.keyOrder eachTwice := by decide
  refine ⟨hcons, horder, rfl, ?_, by decide +kernel⟩
  exact sameOutcome_of_keyOrder "a,b,cde" hcons horder rfl

/-! ## Literals of which none begins another -/

/-- No text of the list is a proper beginning of another one. -/
def PrefixFree (texts : List String) : Prop :=
  ∀ s ∈ texts, ∀ t ∈ texts, s.toList <+: t.toList → s = t

namespace Delimiter

variable {texts texts' : List String} {cur : Cursor} {buffer : TokenBuffer} {matched : String}

/-- Two texts that stand at the same place are the same, so the first match is the only one. -/
theorem firstMatch?_eq_some_iff (h : PrefixFree texts) :
    firstMatch? (texts.map literal) cur buffer false = some matched ↔
      matched ∈ texts ∧ matched.toList <+: cur.rest := by
  have hliterals : ∀ d ∈ texts.map literal, ∃ text, d = .literal text := by
    intro d hd
    obtain ⟨text, -, rfl⟩ := List.mem_map.mp hd
    exact ⟨text, rfl⟩
  have hfound : ∀ {m}, firstMatch? (texts.map literal) cur buffer false = some m →
      m ∈ texts ∧ m.toList <+: cur.rest := by
    intro m hm
    obtain ⟨hmem, hstands⟩ := literal_of_firstMatch? hliterals hm
    obtain ⟨text, htext, heq⟩ := List.mem_map.mp hmem
    cases heq
    exact ⟨htext, literalStandsAt_iff.mp hstands⟩
  refine ⟨hfound, fun ⟨hmem, hbegins⟩ => ?_⟩
  cases hfirst : firstMatch? (texts.map literal) cur buffer false with
  | none =>
    have hnone := List.findSome?_eq_none_iff.mp hfirst _ (List.mem_map_of_mem hmem)
    rw [match?, if_pos (literalStandsAt_iff.mpr hbegins)] at hnone
    cases hnone
  | some m =>
    obtain ⟨hm, hbegins'⟩ := hfound hfirst
    rcases List.prefix_or_prefix_of_prefix hbegins hbegins' with hle | hle
    · rw [h matched hmem m hm hle]
    · rw [h m hm matched hmem hle]

theorem firstMatch?_of_prefixFree (h : PrefixFree texts) (hsame : ∀ t, t ∈ texts ↔ t ∈ texts')
    (cur : Cursor) (buffer : TokenBuffer) :
    firstMatch? (texts.map literal) cur buffer false =
      firstMatch? (texts'.map literal) cur buffer false := by
  have h' : PrefixFree texts' := fun s hs t ht =>
    h s ((hsame s).mpr hs) t ((hsame t).mpr ht)
  refine Option.ext fun matched => ?_
  rw [firstMatch?_eq_some_iff h, firstMatch?_eq_some_iff h', hsame]

end Delimiter

/-- The order of literals and their repeats make no difference where none of them begins another
one. -/
theorem sameOutcome_of_prefixFree {options : Options} (hregex : options.useRegex = none)
    (hcase : options.caseInsensitive = false) {texts texts' : List String}
    (hfree : PrefixFree texts) (hsame : ∀ t, t ∈ texts ↔ t ∈ texts') (input : String) :
    SameOutcome (scan input options (texts.map .literal))
      (scan input options (texts'.map .literal)) := by
  have hmake : ∀ ds, Plan.make options ds = .ok ⟨options, ds, options.stops⟩ := by
    intro ds
    rw [Plan.make_eq_ok_iff, hregex]
    exact ⟨rfl, rfl, rfl⟩
  have hempty : (texts.map Delimiter.literal).isEmpty = (texts'.map Delimiter.literal).isEmpty := by
    rw [Bool.eq_iff_iff, List.isEmpty_iff, List.isEmpty_iff, List.map_eq_nil_iff,
      List.map_eq_nil_iff, List.eq_nil_iff_forall_not_mem, List.eq_nil_iff_forall_not_mem]
    simp only [hsame]
  have halike : Plan.Alike ⟨options, texts.map .literal, options.stops⟩
      ⟨options, texts'.map .literal, options.stops⟩ := by
    refine ⟨rfl, rfl, rfl, rfl, rfl, hempty, fun cur buffer => ?_, fun _ _ => rfl⟩
    rw [hcase]
    exact Delimiter.firstMatch?_of_prefixFree hfree hsame cur buffer
  exact .of_finalState (hmake _) (hmake _) (halike.finalState input)

/-- Comparisons in any order, one of them twice, and a stop that counts the tokens. -/
theorem sameOutcome_of_comparisons :
    PrefixFree ["==", "<=", ","] ∧
    (∀ t, t ∈ ["==", "<=", ","] ↔ t ∈ [",", "<=", "==", "<="]) ∧
    SameOutcome (scan "a<=b,c==d" { stops := [.predicate thirdToken] } ["==", "<=", ","])
      (scan "a<=b,c==d" { stops := [.predicate thirdToken] } [",", "<=", "==", "<="]) ∧
    (scan "a<=b,c==d" { stops := [.predicate thirdToken] } ["==", "<=", ","]).toOption.map
      (·.texts) = some ["a", "b", "c"] := by
  have hfree : PrefixFree ["==", "<=", ","] := by
    unfold PrefixFree
    decide
  have hsame : ∀ t, t ∈ ["==", "<=", ","] ↔ t ∈ [",", "<=", "==", "<="] := by grind
  refine ⟨hfree, hsame, ?_, by decide +kernel⟩
  exact sameOutcome_of_prefixFree rfl rfl hfree hsame "a<=b,c==d"

end DelimiterScan
