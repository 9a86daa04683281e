import Mathlib.Data.List.Forall2
import QueryModel.Syntax.Reader

/-!
# What readers take

A reader that succeeds has taken some tokens from the front. Positions play no part in it, and
of the tokens after those it took it has seen at most the next one. So it takes the same tokens
again, with the same value, wherever they stand before the same next token; a reader that ends
with a fixed closing token does so before any token.
-/

set_option autoImplicit false

namespace QueryModel.Syntax

def Tokens.tokens (ts : Tokens) : List Token := ts.pending.map Placed.token

namespace Reader

variable {α β : Type}

theorem bind_ok {x : Reader α} {f : α → Reader β} {ts us : Tokens} {b : β} :
    (x >>= f) ts = .ok (b, us) ↔
      ∃ a middle, x ts = .ok (a, middle) ∧ f a middle = .ok (b, us) := by
  change (x ts >>= fun p => f p.1 p.2) = .ok (b, us) ↔ _
  rcases x ts with e | ⟨a, middle⟩
  · simp [bind, Except.bind]
  · simp [bind, Except.bind, and_assoc]

theorem bind_run {x : Reader α} {ts us : Tokens} {a : α} (h : x ts = .ok (a, us))
    (f : α → Reader β) : (x >>= f) ts = f a us := by
  change (x ts >>= fun p => f p.1 p.2) = f a us
  rw [h]
  rfl

def Repeats (r : Reader α) (used : List Token) (a : α) (allowed : List Token → Prop) : Prop :=
  ∀ ts rest, ts.tokens = used ++ rest → allowed rest →
    ∃ us, r ts = .ok (a, us) ∧ us.tokens = rest ∧ us.fault = ts.fault

def Follows (free : Bool) (rest rest' : List Token) : Prop :=
  free = false → rest'.head? = rest.head?

theorem Follows.extend {free : Bool} {rest rest' : List Token} (h : Follows free rest rest')
    {u : List Token} (hu : free = true → u ≠ []) : Follows false (u ++ rest) (u ++ rest') := by
  intro _
  cases u with
  | cons t u => rfl
  | nil =>
    cases free with
    | true => exact absurd rfl (hu rfl)
    | false => exact h rfl

/-- Where the next token is as expected, what the first reader takes is related to its value, and
the second reader repeats it. Only a reader that takes something may be free of what follows. -/
def Reads (free : Bool) (expected : Option Token → Prop) (P : α → List Token → Prop)
    (r r' : Reader α) : Prop :=
  ∀ ts a us, expected ts.tokens.head? → r ts = .ok (a, us) →
    ∃ used, ts.tokens = used ++ us.tokens ∧ us.fault = ts.fault ∧ P a used ∧
      (free = true → used ≠ []) ∧ Repeats r' used a (Follows free us.tokens)

abbrev Takes (P : α → List Token → Prop) (r : Reader α) : Prop :=
  Reads false (fun _ => True) P r r

abbrev TakesClosed (P : α → List Token → Prop) (r : Reader α) : Prop :=
  Reads true (fun _ => True) P r r

section Rules

variable {free : Bool} {expected : Option Token → Prop} {P Q : α → List Token → Prop}
  {r r' : Reader α}

theorem Reads.weaken (h : Reads free expected P r r') (hPQ : ∀ a u, P a u → Q a u) :
    Reads free expected Q r r' := by
  intro ts a us hts hr
  obtain ⟨used, heq, hfault, hP, hfree, hrepeats⟩ := h ts a us hts hr
  exact ⟨used, heq, hfault, hPQ a used hP, hfree, hrepeats⟩

theorem Reads.expecting {narrow : Option Token → Prop} (h : Reads free expected P r r')
    (hexpected : ∀ o, narrow o → expected o) : Reads free narrow P r r' :=
  fun ts a us hts hr => h ts a us (hexpected _ hts) hr

theorem Reads.bound (h : Reads true expected P r r') : Reads false expected P r r' := by
  intro ts a us hts hr
  obtain ⟨used, heq, hfault, hP, hfree, hrepeats⟩ := h ts a us hts hr
  exact ⟨used, heq, hfault, hP, nofun, fun vs rest hvs _ => hrepeats vs rest hvs nofun⟩

theorem reads_pure (a : α) (h : P a []) : Reads false expected P (pure a) (pure a) := by
  rintro ts _ _ - ⟨⟩
  exact ⟨[], rfl, rfl, h, nofun, fun vs rest hvs _ => ⟨vs, rfl, hvs, rfl⟩⟩

theorem reads_error (h : ∀ ts a us, r ts ≠ .ok (a, us)) : Reads free expected P r r' :=
  fun ts a us _ hr => absurd hr (h ts a us)

theorem reads_unexpected : Reads free expected P unexpected unexpected :=
  reads_error fun _ _ _ h => by simp [unexpected] at h

theorem reads_missing : Reads free expected P missing missing :=
  reads_error fun _ _ _ h => by simp [missing] at h

theorem reads_missing_bind (f f' : β → Reader α) :
    Reads free expected P (missing >>= f) (missing >>= f') :=
  reads_error fun _ _ _ h => by
    obtain ⟨_, _, h, -⟩ := bind_ok.mp h
    simp [missing] at h

theorem reads_fail (f g : Failure) : Reads free expected P (fail f) (fail g) :=
  reads_error fun _ _ _ h => by simp [fail] at h

theorem reads_literal (p q : Position) (value : Except LiteralFault α) (h : ∀ a, P a []) :
    Reads false expected P (literal p value) (literal q value) := by
  cases value with
  | error fault => exact reads_fail _ _
  | ok a => exact reads_pure a (h a)

/-- The second of two readers meets the same next token again, so the first repeats before it. -/
theorem Reads.bindKnown {R : β → List Token → Prop} {S : α → β → List Token → Prop}
    {f f' : α → Reader β} (h : Reads false expected P r r')
    (hnext : ∀ a u, P a u → Reads free (fun _ => True) (S a) (f a) (f' a))
    (hR : ∀ a b u v, P a u → S a b v → R b (u ++ v)) :
    Reads free expected R (r >>= f) (r' >>= f') := by
  intro ts b us hts hrun
  obtain ⟨a, middle, hr, hf⟩ := bind_ok.mp hrun
  obtain ⟨u, hu, hfault, hP, -, hrepeats⟩ := h ts a middle hts hr
  obtain ⟨v, hv, hfault', hS, hfree, hrepeats'⟩ := hnext a u hP middle b us trivial hf
  refine ⟨u ++ v, by rw [hu, hv, List.append_assoc], hfault'.trans hfault, hR a b u v hP hS,
    fun hf => by simp [hfree hf], fun vs rest hvs hrest => ?_⟩
  rw [List.append_assoc] at hvs
  obtain ⟨ws, hws, hwtokens, hwfault⟩ := hrepeats vs _ hvs (hv ▸ hrest.extend hfree)
  obtain ⟨xs, hxs, hxtokens, hxfault⟩ := hrepeats' ws rest hwtokens hrest
  exact ⟨xs, bind_ok.mpr ⟨a, ws, hws, hxs⟩, hxtokens, hxfault.trans hwfault⟩

theorem Reads.bind {R : β → List Token → Prop} {S : α → β → List Token → Prop}
    {f f' : α → Reader β} (h : Reads false expected P r r')
    (hnext : ∀ a, Reads free (fun _ => True) (S a) (f a) (f' a))
    (hR : ∀ a b u v, P a u → S a b v → R b (u ++ v)) :
    Reads free expected R (r >>= f) (r' >>= f') :=
  h.bindKnown (fun a _ _ => hnext a) hR

theorem Reads.map {R : β → List Token → Prop} {f : α → β} (h : Reads free expected P r r')
    (hR : ∀ a u, P a u → R (f a) u) :
    Reads free expected R (r >>= fun a => pure (f a)) (r' >>= fun a => pure (f a)) := by
  intro ts b us hts hrun
  obtain ⟨a, middle, hr, ⟨⟩⟩ := bind_ok.mp hrun
  obtain ⟨u, hu, hfault, hP, hfree, hrepeats⟩ := h ts a us hts hr
  refine ⟨u, hu, hfault, hR a u hP, hfree, fun vs rest hvs hrest => ?_⟩
  obtain ⟨ws, hws, hwtokens, hwfault⟩ := hrepeats vs rest hvs hrest
  exact ⟨ws, bind_ok.mpr ⟨a, ws, hws, rfl⟩, hwtokens, hwfault⟩

theorem reads_ite {c : Prop} [Decidable c] {x y x' y' : Reader α}
    (hx : c → Reads free expected P x x') (hy : ¬ c → Reads free expected P y y') :
    Reads free expected P (if c then x else y) (if c then x' else y') := by
  split
  · next h => exact hx h
  · next h => exact hy h

end Rules

section Primitives

variable {free : Bool} {expected : Option Token → Prop} {P Q : α → List Token → Prop}

theorem next?_run (ts : Tokens) : next? ts = .ok (ts.tokens.head?, ts) := by
  rw [Tokens.tokens, List.head?_map]
  rfl

theorem advance_run (ts : Tokens) :
    advance ts = .ok ((), { ts with pending := ts.pending.drop 1 }) := rfl

theorem tokens_cons {ts : Tokens} {t : Token} {rest : List Token} (h : ts.tokens = t :: rest) :
    ∃ us, advance ts = .ok ((), us) ∧ us.tokens = rest ∧ us.fault = ts.fault := by
  refine ⟨_, advance_run ts, ?_, rfl⟩
  have hdrop := congrArg (List.drop 1) h
  simpa [Tokens.tokens, List.map_drop] using hdrop

/-- Looking at the next token takes nothing, and what goes on knows it. -/
theorem reads_next? {f f' : Option Token → Reader α}
    (h : ∀ o, expected o → Reads free (· = o) P (f o) (f' o)) :
    Reads free expected P (next? >>= f) (next? >>= f') := by
  intro ts a us hts hrun
  obtain ⟨o, middle, ho, hf⟩ := bind_ok.mp hrun
  rw [next?_run] at ho
  obtain ⟨rfl, rfl⟩ := Prod.mk.inj (Except.ok.inj ho)
  obtain ⟨u, hu, hfault, hP, hfree, hrepeats⟩ := h _ hts ts a us rfl hf
  refine ⟨u, hu, hfault, hP, hfree, fun vs rest hvs hrest => ?_⟩
  obtain ⟨ws, hws, hwtokens, hwfault⟩ := hrepeats vs rest hvs hrest
  have hhead : vs.tokens.head? = ts.tokens.head? := by
    rw [hvs, hu]
    exact hrest.extend hfree rfl
  refine ⟨ws, bind_ok.mpr ⟨_, vs, next?_run vs, ?_⟩, hwtokens, hwfault⟩
  rw [hhead]
  exact hws

theorem position_run (ts : Tokens) : ∃ p, position ts = .ok (p, ts) := ⟨_, rfl⟩

theorem reads_position {f f' : Position → Reader α}
    (h : ∀ p q, Reads free expected P (f p) (f' q)) :
    Reads free expected P (position >>= f) (position >>= f') := by
  intro ts a us hts hrun
  obtain ⟨p, middle, hp, hf⟩ := bind_ok.mp hrun
  obtain ⟨p', hp'⟩ := position_run ts
  obtain ⟨rfl, rfl⟩ := Prod.mk.inj (Except.ok.inj (hp'.symm.trans hp))
  obtain ⟨u, hu, hfault, hP, hfree, -⟩ := h p' p' ts a us hts hf
  refine ⟨u, hu, hfault, hP, hfree, fun vs rest hvs hrest => ?_⟩
  obtain ⟨q, hq⟩ := position_run vs
  obtain ⟨v, hv, -, -, -, hrepeats⟩ := h p' q ts a us hts hf
  obtain rfl : u = v := List.append_cancel_right (hu.symm.trans hv)
  obtain ⟨ws, hws, hwtokens, hwfault⟩ := hrepeats vs rest hvs hrest
  exact ⟨ws, bind_ok.mpr ⟨q, vs, hq, hws⟩, hwtokens, hwfault⟩

theorem reads_advance {t : Token} {x x' : Reader α}
    (h : Reads free (fun _ => True) P x x') (hQ : ∀ a u, P a u → Q a (t :: u)) :
    Reads free (· = some t) Q (advance >>= fun _ => x) (advance >>= fun _ => x') := by
  intro ts a us hts hrun
  obtain ⟨⟨⟩, middle, hadvance, hx⟩ := bind_ok.mp hrun
  obtain ⟨rest, hrest⟩ := List.head?_eq_some_iff.mp hts
  obtain ⟨next, hnext, htokens, hfault⟩ := tokens_cons hrest
  obtain ⟨-, rfl⟩ := Prod.mk.inj (Except.ok.inj (hnext.symm.trans hadvance))
  obtain ⟨u, hu, hfault', hP, hfree, hrepeats⟩ := h next a us trivial hx
  refine ⟨t :: u, by rw [hrest, ← htokens, hu]; rfl, hfault'.trans hfault, hQ a u hP, by simp,
    fun vs rest hvs hrest => ?_⟩
  obtain ⟨ws, hws, hwtokens, hwfault⟩ := tokens_cons hvs
  obtain ⟨xs, hxs, hxtokens, hxfault⟩ := hrepeats ws rest hwtokens hrest
  exact ⟨xs, bind_ok.mpr ⟨(), ws, hws, hxs⟩, hxtokens, hxfault.trans hwfault⟩

theorem takes_advance {t : Token} :
    Reads false (· = some t) (fun _ u => u = [t]) advance advance := by
  have h : Reads false (· = some t) (fun (_ : Unit) u => u = [t]) (advance >>= fun _ => pure ())
      (advance >>= fun _ => pure ()) :=
    reads_advance (P := fun _ u => u = []) (reads_pure () rfl) fun _ u hu => by rw [hu]
  exact h

theorem reads_isNext {t : Token} {x y x' y' : Reader α} (hx : Reads free (· = some t) P x x')
    (hy : Reads free expected P y y') :
    Reads free expected P (isNext t >>= fun b => if b then x else y)
      (isNext t >>= fun b => if b then x' else y') := by
  have h : Reads free expected P (next? >>= fun o => if decide (o = some t) then x else y)
      (next? >>= fun o => if decide (o = some t) then x' else y') := by
    refine reads_next? fun o ho => reads_ite (fun heq => ?_) fun _ => ?_
    · exact hx.expecting fun o' ho' => ho'.trans (of_decide_eq_true heq)
    · exact hy.expecting fun o' ho' => ho' ▸ ho
  exact h

theorem takes_isNext (t : Token) : Takes (fun _ u => u = []) (isNext t) :=
  reads_next? fun _ _ => reads_pure _ rfl

theorem takes_expect (t : Token) : Takes (fun _ u => u = [t]) (expect t) :=
  reads_isNext takes_advance reads_unexpected

theorem takes_accept (t : Token) : Takes (fun b u => u = if b then [t] else []) (accept t) := by
  refine reads_isNext ?_ (reads_pure false rfl)
  refine reads_advance (P := fun b u => b = true ∧ u = []) (reads_pure true ⟨rfl, rfl⟩) ?_
  rintro b u ⟨rfl, rfl⟩
  rfl

theorem takes_ofKind (kind : TokenKind) :
    Takes (fun text u => u = [⟨kind, text⟩]) (ofKind kind) := by
  refine reads_next? fun o _ => ?_
  cases o with
  | none => exact reads_unexpected
  | some t =>
    refine reads_ite (fun hkind => ?_) fun _ => reads_unexpected
    refine reads_advance (P := fun text u => text = t.text ∧ u = []) (reads_pure _ ⟨rfl, rfl⟩) ?_
    rintro text u ⟨rfl, rfl⟩
    rw [← hkind]

theorem takes_name : Takes (fun n u => u = [word n]) name := takes_ofKind .name

theorem takes_isNameNext : Takes (fun _ u => u = []) isNameNext :=
  reads_next? fun _ _ => reads_pure _ rfl

end Primitives

section Loops

variable {close mark t : Token} {item : Reader α} {ts : Tokens} {rest : List Token}

structure Joins (L : List Token → Prop) : Prop where
  nil : L []
  append {u v : List Token} (hu : L u) (hv : L v) : L (u ++ v)

theorem isNext_run (t : Token) (ts : Tokens) :
    isNext t ts = .ok (decide (ts.tokens.head? = some t), ts) := by
  have h : isNext t ts = (next? >>= fun o => pure (decide (o = some t))) ts := rfl
  rw [h]
  exact bind_ok.mpr ⟨_, ts, next?_run ts, rfl⟩

theorem accept_next (h : ts.tokens = t :: rest) :
    ∃ us, accept t ts = .ok (true, us) ∧ us.tokens = rest ∧ us.fault = ts.fault := by
  obtain ⟨us, hus, htokens, hfault⟩ := tokens_cons h
  refine ⟨us, bind_ok.mpr ⟨true, ts, ?_, bind_ok.mpr ⟨(), us, hus, rfl⟩⟩, htokens, hfault⟩
  rw [isNext_run, h]
  simp

theorem accept_other (h : ts.tokens.head? ≠ some t) : accept t ts = .ok (false, ts) := by
  refine bind_ok.mpr ⟨false, ts, ?_, rfl⟩
  rw [isNext_run]
  simp [h]

theorem itemsUntil_close (h : ts.tokens = close :: rest) (item : Reader α) (n : Nat) :
    ∃ us, itemsUntil close item (n + 1) ts = .ok ([], us) ∧ us.tokens = rest ∧
      us.fault = ts.fault := by
  obtain ⟨us, hus, htokens, hfault⟩ := accept_next h
  exact ⟨us, bind_ok.mpr ⟨true, us, hus, rfl⟩, htokens, hfault⟩

theorem itemsUntil_item (hclose : ts.tokens.head? ≠ some close) {n : Nat} {as : List α}
    {us : Tokens} :
    itemsUntil close item (n + 1) ts = .ok (as, us) ↔
      ts.tokens ≠ [] ∧ ∃ a middle more, item ts = .ok (a, middle) ∧
        itemsUntil close item n middle = .ok (more, us) ∧ as = a :: more := by
  rw [itemsUntil, bind_run (accept_other hclose), if_neg Bool.false_ne_true,
    bind_run (next?_run ts)]
  cases htokens : ts.tokens with
  | nil =>
    simp only [List.head?_nil, Option.isNone_none, ne_eq, not_true_eq_false, false_and, iff_false]
    intro h
    obtain ⟨_, _, h, -⟩ := bind_ok.mp h
    cases h
  | cons t rest =>
    simp only [List.head?_cons, Option.isNone_some, Bool.false_eq_true, ne_eq, reduceCtorEq,
      not_false_eq_true, true_and]
    constructor
    · intro h
      obtain ⟨a, middle, ha, h⟩ := bind_ok.mp h
      obtain ⟨more, _, hmore, ⟨⟩⟩ := bind_ok.mp h
      exact ⟨a, middle, more, ha, hmore, rfl⟩
    · rintro ⟨a, middle, more, ha, hmore, rfl⟩
      exact bind_ok.mpr ⟨a, middle, ha, bind_ok.mpr ⟨more, us, hmore, rfl⟩⟩

/-- Items up to a closing token. Every item takes a token, so as many items as there are tokens
are allowed for. -/
theorem itemsUntil_reads {L : List Token → Prop} (hL : Joins L)
    (hitem : Takes (fun _ u => L u ∧ u ≠ []) item) {n : Nat} {as : List α} {us : Tokens}
    (h : itemsUntil close item n ts = .ok (as, us)) :
    ∃ inner, L inner ∧ ts.tokens = inner ++ close :: us.tokens ∧ us.fault = ts.fault ∧
      ∀ m, inner.length < m →
        Repeats (itemsUntil close item m) (inner ++ [close]) as fun _ => True := by
  induction n generalizing ts as with
  | zero => cases h
  | succ n ih =>
    by_cases hclose : ts.tokens.head? = some close
    · obtain ⟨rest, hrest⟩ := List.head?_eq_some_iff.mp hclose
      obtain ⟨vs, hvs, htokens, hfault⟩ := itemsUntil_close hrest item n
      obtain ⟨rfl, rfl⟩ := Prod.mk.inj (Except.ok.inj (hvs.symm.trans h))
      refine ⟨[], hL.nil, by rw [hrest, htokens]; rfl, hfault, fun m hm xs rest hxs _ => ?_⟩
      obtain ⟨m, rfl⟩ := Nat.exists_eq_succ_of_ne_zero (Nat.ne_of_gt hm)
      exact itemsUntil_close hxs item m
    · obtain ⟨hne, a, middle, more, ha, hmore, rfl⟩ := (itemsUntil_item hclose).mp h
      obtain ⟨u, hu, hfault, ⟨hLu, hune⟩, -, hrepeats⟩ := hitem ts a middle trivial ha
      obtain ⟨inner, hinner, htokens, hfault', hrepeats'⟩ := ih hmore
      refine ⟨u ++ inner, hL.append hLu hinner, by rw [hu, htokens, List.append_assoc],
        hfault'.trans hfault, fun m hm xs rest hxs _ => ?_⟩
      obtain ⟨t, u, rfl⟩ := List.exists_cons_of_ne_nil hune
      obtain ⟨m, rfl⟩ := Nat.exists_eq_succ_of_ne_zero (Nat.ne_of_gt (Nat.zero_lt_of_lt hm))
      have hlength : inner.length < m := by
        simp only [List.length_append, List.length_cons] at hm
        omega
      have hxclose : xs.tokens.head? ≠ some close := by
        rw [hxs]
        rw [hu] at hclose
        exact hclose
      have hfollows : Follows false middle.tokens (inner ++ [close] ++ rest) := by
        rw [htokens, List.append_cons]
        have hany : Follows true us.tokens rest := nofun
        exact hany.extend (by simp)
      obtain ⟨ys, hys, hytokens, hyfault⟩ := hrepeats xs (inner ++ [close] ++ rest)
        (by rw [hxs]; simp) hfollows
      obtain ⟨zs, hzs, hztokens, hzfault⟩ := hrepeats' m hlength ys rest hytokens trivial
      refine ⟨zs, (itemsUntil_item hxclose).mpr ⟨by rw [hxs]; simp, a, ys, more, hys, hzs, rfl⟩,
        hztokens, hzfault.trans hyfault⟩

theorem manyUntil_run (close : Token) (item : Reader α) (ts : Tokens) :
    manyUntil close item ts = itemsUntil close item (ts.tokens.length + 1) ts := by
  rw [Tokens.tokens, List.length_map]
  rfl

theorem takes_manyUntil {L : List Token → Prop} (hL : Joins L)
    (hitem : Takes (fun _ u => L u ∧ u ≠ []) item) :
    TakesClosed (fun _ u => ∃ inner, L inner ∧ u = inner ++ [close]) (manyUntil close item) := by
  intro ts as us _ h
  rw [manyUntil_run] at h
  obtain ⟨inner, hinner, htokens, hfault, hrepeats⟩ := itemsUntil_reads hL hitem h
  refine ⟨inner ++ [close], by rw [htokens, List.append_assoc]; rfl, hfault, ⟨inner, hinner, rfl⟩,
    by simp, fun vs rest hvs _ => ?_⟩
  rw [manyUntil_run]
  refine hrepeats _ ?_ vs rest hvs trivial
  rw [hvs]
  simp only [List.length_append, List.length_cons]
  omega

theorem takes_someBetween {opening : Token} {L : List Token → Prop} (hL : Joins L)
    (hitem : Takes (fun _ u => L u ∧ u ≠ []) item) :
    TakesClosed (fun as u => as ≠ [] ∧ ∃ inner, L inner ∧ u = opening :: inner ++ [close])
      (someBetween opening close item) := by
  refine (takes_expect opening).bind (S := fun _ as v => as ≠ [] ∧ ∃ inner, L inner ∧
    v = inner ++ [close]) (fun _ => ?_) ?_
  · refine hitem.bind (S := fun _ as v => as ≠ [] ∧ ∃ inner, L inner ∧ v = inner ++ [close])
      (fun a => (takes_manyUntil hL hitem).map fun as u hu => ⟨List.cons_ne_nil a as, hu⟩) ?_
    rintro a as u v ⟨hu, -⟩ ⟨hne, inner, hinner, rfl⟩
    exact ⟨hne, u ++ inner, hL.append hu hinner, by simp⟩
  · rintro _ as u v rfl ⟨hne, inner, hinner, rfl⟩
    exact ⟨hne, inner, hinner, rfl⟩

theorem takes_optionalBetween {opening : Token} {L : List Token → Prop} (hL : Joins L)
    (hitem : Takes (fun _ u => L u ∧ u ≠ []) item) :
    Takes (fun as u => (as = [] ∧ u = []) ∨
        (as ≠ [] ∧ ∃ inner, L inner ∧ u = opening :: inner ++ [close]))
      (optionalBetween opening close item) := by
  refine reads_isNext ?_ (reads_pure [] (.inl ⟨rfl, rfl⟩))
  refine ((takes_someBetween hL hitem).bound.weaken fun _ _ h => .inr h).expecting ?_
  exact fun _ _ => trivial

theorem whileNext_none (h : ts.tokens.head? ≠ some mark) (item : Reader α) (n : Nat) :
    whileNext mark item n ts = .ok ([], ts) := by
  cases n with
  | zero => rfl
  | succ n => rw [whileNext, bind_run (accept_other h)]; rfl

theorem whileNext_some {us : Tokens} (h : accept mark ts = .ok (true, us)) (item : Reader α)
    (n : Nat) : whileNext mark item (n + 1) ts =
      (item >>= fun a => whileNext mark item n >>= fun more => pure (a :: more)) us := by
  rw [whileNext, bind_run h]
  rfl

theorem whileNext_reads {L : List Token → Prop} {M : List Token → Prop} (hnil : L [])
    (hcons : ∀ u v, M u → L v → L (mark :: u ++ v)) (hitem : Takes (fun _ u => M u) item) {n : Nat}
    {as : List α} {us : Tokens} (hn : ts.tokens.length ≤ n)
    (h : whileNext mark item n ts = .ok (as, us)) :
    ∃ used, ts.tokens = used ++ us.tokens ∧ us.fault = ts.fault ∧ L used ∧
      ∀ m, used.length ≤ m →
        Repeats (whileNext mark item m) used as (Follows false us.tokens) := by
  induction n generalizing ts as with
  | zero =>
    have hempty : ts.tokens = [] := List.length_eq_zero_iff.mp (Nat.le_zero.mp hn)
    obtain ⟨rfl, rfl⟩ := Prod.mk.inj (Except.ok.inj h)
    refine ⟨[], rfl, rfl, hnil, fun m _ vs rest hvs hrest => ?_⟩
    refine ⟨vs, whileNext_none ?_ item m, hvs, rfl⟩
    rw [hvs, List.nil_append, hrest rfl, hempty]
    simp
  | succ n ih =>
    by_cases hmark : ts.tokens.head? = some mark
    · obtain ⟨rest, hrest⟩ := List.head?_eq_some_iff.mp hmark
      obtain ⟨vs, hvs, htokens, hfault⟩ := accept_next hrest
      rw [whileNext_some hvs] at h
      obtain ⟨a, middle, ha, h⟩ := bind_ok.mp h
      obtain ⟨more, _, hmore, ⟨⟩⟩ := bind_ok.mp h
      obtain ⟨u, hu, hfault', hMu, -, hrepeats⟩ := hitem vs a middle trivial ha
      have hlength : middle.tokens.length ≤ n := by
        rw [hrest, ← htokens, hu, List.length_cons, List.length_append] at hn
        omega
      obtain ⟨v, hv, hfault'', hLv, hrepeats'⟩ := ih hlength hmore
      refine ⟨mark :: u ++ v, by rw [hrest, ← htokens, hu, hv]; simp,
        hfault''.trans (hfault'.trans hfault), hcons u v hMu hLv,
        fun m hm xs rest hxs hfollows => ?_⟩
      obtain ⟨m, rfl⟩ : ∃ k, m = k + 1 := by
        refine Nat.exists_eq_succ_of_ne_zero (Nat.ne_of_gt (Nat.lt_of_lt_of_le ?_ hm))
        simp
      have hvm : v.length ≤ m := by
        simp only [List.length_append, List.length_cons] at hm
        omega
      have hhead : Follows false middle.tokens (v ++ rest) := hv ▸ hfollows.extend nofun
      have hxs' : xs.tokens = mark :: (u ++ (v ++ rest)) := by rw [hxs]; simp
      obtain ⟨ys, hys, hytokens, hyfault⟩ := accept_next hxs'
      obtain ⟨zs, hzs, hztokens, hzfault⟩ := hrepeats ys _ hytokens hhead
      obtain ⟨ws, hws, hwtokens, hwfault⟩ := hrepeats' m hvm zs rest hztokens hfollows
      refine ⟨ws, ?_, hwtokens, hwfault.trans (hzfault.trans hyfault)⟩
      rw [whileNext_some hys]
      exact bind_ok.mpr ⟨a, zs, hzs, bind_ok.mpr ⟨more, ws, hws, rfl⟩⟩
    · rw [whileNext_none hmark] at h
      obtain ⟨rfl, rfl⟩ := Prod.mk.inj (Except.ok.inj h)
      refine ⟨[], rfl, rfl, hnil, fun m _ vs rest hvs hrest => ?_⟩
      refine ⟨vs, whileNext_none ?_ item m, hvs, rfl⟩
      rw [hvs, List.nil_append, hrest rfl]
      exact hmark

theorem each_run (mark : Token) (item : Reader α) (ts : Tokens) :
    each mark item ts = whileNext mark item ts.tokens.length ts := by
  rw [Tokens.tokens, List.length_map]
  rfl

theorem takes_each {L M : List Token → Prop} (hnil : L [])
    (hcons : ∀ u v, M u → L v → L (mark :: u ++ v)) (hitem : Takes (fun _ u => M u) item) :
    Takes (fun _ u => L u) (each mark item) := by
  intro ts as us _ h
  rw [each_run] at h
  obtain ⟨used, htokens, hfault, hused, hrepeats⟩ :=
    whileNext_reads hnil hcons hitem (Nat.le_refl _) h
  refine ⟨used, htokens, hfault, hused, nofun, fun vs rest hvs hrest => ?_⟩
  rw [each_run]
  refine hrepeats _ ?_ vs rest hvs hrest
  rw [hvs, List.length_append]
  omega

theorem takes_separated {L M : List Token → Prop} (hnil : L [])
    (hcons : ∀ u v, M u → L v → L (mark :: u ++ v)) (hitem : Takes (fun _ u => M u) item) :
    Takes (fun _ u => ∃ first more, M first ∧ L more ∧ u = first ++ more)
      (separated mark item) := by
  refine hitem.bind (S := fun _ _ v => L v)
    (fun a => (takes_each hnil hcons hitem).map fun _ _ h => h) ?_
  exact fun a as u v hu hv => ⟨u, v, hu, hv, rfl⟩

end Loops

section Documents

variable {item : Reader α} {P : α → List Token → Prop} {ts us : Tokens} {a : α} {as : List α}

theorem untilEnd_end (htokens : ts.tokens = []) (hfault : ts.fault = none) (n : Nat) :
    untilEnd item (n + 1) ts = .ok ([], ts) := by
  obtain ⟨pending, stop, fault⟩ := ts
  obtain rfl : pending = [] := List.map_eq_nil_iff.mp htokens
  obtain rfl : fault = none := hfault
  rfl

theorem untilEnd_item (htokens : ts.tokens ≠ []) {n : Nat} :
    untilEnd item (n + 1) ts = .ok (as, us) ↔ ∃ a middle more, item ts = .ok (a, middle) ∧
      untilEnd item n middle = .ok (more, us) ∧ as = a :: more := by
  obtain ⟨pending, stop, fault⟩ := ts
  cases pending with
  | nil => exact absurd rfl htokens
  | cons t pending =>
    change (item >>= fun a => untilEnd item n >>= fun more => pure (a :: more))
      ⟨t :: pending, stop, fault⟩ = .ok (as, us) ↔ _
    constructor
    · intro h
      obtain ⟨a, middle, ha, h⟩ := bind_ok.mp h
      obtain ⟨more, _, hmore, ⟨⟩⟩ := bind_ok.mp h
      exact ⟨a, middle, more, ha, hmore, rfl⟩
    · rintro ⟨a, middle, more, ha, hmore, rfl⟩
      exact bind_ok.mpr ⟨a, middle, ha, bind_ok.mpr ⟨more, us, hmore, rfl⟩⟩

theorem fault_of_untilEnd {n : Nat} (h : untilEnd item n ts = .ok (as, us))
    (htokens : ts.tokens = []) : as = [] ∧ ts.fault = none := by
  obtain ⟨pending, stop, fault⟩ := ts
  obtain rfl : pending = [] := List.map_eq_nil_iff.mp htokens
  cases n with
  | zero => cases h
  | succ n =>
    cases fault with
    | none => cases h; exact ⟨rfl, rfl⟩
    | some fault => cases h

theorem document_ok : document item ts = .ok (as, us) ↔ ∃ a middle more,
    item ts = .ok (a, middle) ∧ untilEnd item (middle.tokens.length + 1) middle = .ok (more, us) ∧
      as = a :: more := by
  constructor
  · intro h
    obtain ⟨a, middle, ha, h⟩ := bind_ok.mp h
    obtain ⟨_, _, ⟨⟩, h⟩ := bind_ok.mp h
    obtain ⟨more, _, hmore, ⟨⟩⟩ := bind_ok.mp h
    exact ⟨a, middle, more, ha, by simpa [Tokens.tokens] using hmore, rfl⟩
  · rintro ⟨a, middle, more, ha, hmore, rfl⟩
    refine bind_ok.mpr ⟨a, middle, ha, bind_ok.mpr ⟨middle, middle, rfl, ?_⟩⟩
    exact bind_ok.mpr ⟨more, us, by simpa [Tokens.tokens] using hmore, rfl⟩

theorem document_single (h : item ts = .ok (a, us)) (htokens : us.tokens = [])
    (hfault : us.fault = none) : document item ts = .ok ([a], us) :=
  document_ok.mpr ⟨a, us, [], h, untilEnd_end htokens hfault _, rfl⟩

theorem document_one (hitem : Takes P item) (h : document item ts = .ok ([a], us)) :
    ts.fault = none ∧ P a ts.tokens ∧ ∀ vs : Tokens, vs.tokens = ts.tokens → vs.fault = none →
      ∃ ws, document item vs = .ok ([a], ws) := by
  obtain ⟨_, middle, more, ha, hmore, ⟨⟩⟩ := document_ok.mp h
  obtain ⟨used, htokens, hfault, hP, -, hrepeats⟩ := hitem ts a middle trivial ha
  have hend : middle.tokens = [] := by
    by_contra hne
    obtain ⟨_, _, _, -, -, ⟨⟩⟩ := (untilEnd_item hne).mp hmore
  have hmiddle := (fault_of_untilEnd hmore hend).2
  rw [hend, List.append_nil] at htokens
  refine ⟨hfault ▸ hmiddle, htokens ▸ hP, fun vs hvs hvfault => ?_⟩
  obtain ⟨ws, hws, hwtokens, hwfault⟩ :=
    hrepeats vs [] (by rw [hvs, htokens, List.append_nil]) fun _ => by rw [hend]
  exact ⟨ws, document_single hws hwtokens (hwfault.trans hvfault)⟩

def Units (P : α → List Token → Prop) (item : Reader α) (as : List α)
    (units : List (List Token)) : Prop :=
  List.Forall₂ (fun a u => P a u ∧ Repeats item u a fun _ => True) as units

theorem untilEnd_units (hitem : TakesClosed P item) {n : Nat}
    (h : untilEnd item n ts = .ok (as, us)) :
    ts.fault = none ∧ ∃ units, ts.tokens = units.flatten ∧ Units P item as units := by
  induction n generalizing ts as with
  | zero => cases h
  | succ n ih =>
    by_cases htokens : ts.tokens = []
    · obtain ⟨rfl, hfault⟩ := fault_of_untilEnd h htokens
      exact ⟨hfault, [], htokens, .nil⟩
    · obtain ⟨a, middle, more, ha, hmore, rfl⟩ := (untilEnd_item htokens).mp h
      obtain ⟨used, hused, hfault, hP, -, hrepeats⟩ := hitem ts a middle trivial ha
      obtain ⟨hmiddle, units, hunits, hmore⟩ := ih hmore
      refine ⟨hfault ▸ hmiddle, used :: units, by rw [hused, hunits]; rfl, .cons ⟨hP, ?_⟩ hmore⟩
      exact fun vs rest hvs _ => hrepeats vs rest hvs nofun

theorem untilEnd_of_document (h : document item ts = .ok (as, us)) (htokens : ts.tokens ≠ []) :
    ∃ n, untilEnd item n ts = .ok (as, us) := by
  obtain ⟨a, middle, more, ha, hmore, rfl⟩ := document_ok.mp h
  exact ⟨_, (untilEnd_item htokens).mpr ⟨a, middle, more, ha, hmore, rfl⟩⟩

theorem document_units (hitem : TakesClosed P item) (h : document item ts = .ok (as, us)) :
    ts.fault = none ∧ ∃ units, ts.tokens = units.flatten ∧ Units P item as units := by
  have htokens : ts.tokens ≠ [] := by
    obtain ⟨a, middle, more, ha, -⟩ := document_ok.mp h
    obtain ⟨used, hused, -, -, hne, -⟩ := hitem ts a middle trivial ha
    simp [hused, hne rfl]
  obtain ⟨n, hn⟩ := untilEnd_of_document h htokens
  exact untilEnd_units hitem hn

theorem untilEnd_joins {free : Bool} {L : List Token → Prop} (hL : Joins L)
    (hitem : Reads free (fun _ => True) P item item) (hP : ∀ a u, P a u → L u) {n : Nat}
    (h : untilEnd item n ts = .ok (as, us)) : ts.fault = none ∧ L ts.tokens := by
  induction n generalizing ts as with
  | zero => cases h
  | succ n ih =>
    by_cases htokens : ts.tokens = []
    · obtain ⟨-, hfault⟩ := fault_of_untilEnd h htokens
      rw [htokens]
      exact ⟨hfault, hL.nil⟩
    · obtain ⟨a, middle, more, ha, hmore, rfl⟩ := (untilEnd_item htokens).mp h
      obtain ⟨used, hused, hfault, hu, -, -⟩ := hitem ts a middle trivial ha
      obtain ⟨hmiddle, htail⟩ := ih hmore
      rw [hused]
      exact ⟨hfault ▸ hmiddle, hL.append (hP a used hu) htail⟩

theorem document_joins {free : Bool} {L : List Token → Prop} (hL : Joins L)
    (hitem : Reads free (fun _ => True) P item item) (hP : ∀ a u, P a u → L u)
    (h : document item ts = .ok (as, us)) : ts.fault = none ∧ L ts.tokens := by
  obtain ⟨a, middle, more, ha, hmore, rfl⟩ := document_ok.mp h
  obtain ⟨used, hused, hfault, hu, -, -⟩ := hitem ts a middle trivial ha
  obtain ⟨hmiddle, htail⟩ := untilEnd_joins hL hitem hP hmore
  rw [hused]
  exact ⟨hfault ▸ hmiddle, hL.append (hP a used hu) htail⟩

theorem untilEnd_of_units {units : List (List Token)} (hunits : Units P item as units)
    (hne : ∀ u ∈ units, u ≠ []) (htokens : ts.tokens = units.flatten) (hfault : ts.fault = none)
    {n : Nat} (hn : ts.tokens.length ≤ n) : ∃ us, untilEnd item (n + 1) ts = .ok (as, us) := by
  induction hunits generalizing ts n with
  | nil => exact ⟨ts, untilEnd_end htokens hfault n⟩
  | @cons a u as units hunit hunits ih =>
    obtain ⟨hu, hne⟩ := List.forall_mem_cons.mp hne
    obtain ⟨vs, hvs, hvtokens, hvfault⟩ := hunit.2 ts units.flatten htokens trivial
    have hlength : ts.tokens.length = u.length + vs.tokens.length := by
      rw [htokens, hvtokens, List.flatten_cons, List.length_append]
    have hlong := List.length_pos_iff.mpr hu
    obtain ⟨n, rfl⟩ : ∃ m, n = m + 1 := ⟨n - 1, by omega⟩
    obtain ⟨us, hus⟩ := ih hne hvtokens (hvfault.trans hfault) (n := n) (by omega)
    have htaken : ts.tokens ≠ [] := by simp [htokens, hu]
    exact ⟨us, (untilEnd_item htaken).mpr ⟨a, vs, as, hvs, hus, rfl⟩⟩

theorem document_of_units {units : List (List Token)} (hunits : Units P item as units)
    (has : as ≠ []) (hne : ∀ u ∈ units, u ≠ []) (htokens : ts.tokens = units.flatten)
    (hfault : ts.fault = none) : ∃ us, document item ts = .ok (as, us) := by
  cases hunits with
  | nil => contradiction
  | @cons a u as units hunit hunits =>
    obtain ⟨vs, hvs, hvtokens, hvfault⟩ := hunit.2 ts units.flatten htokens trivial
    obtain ⟨us, hus⟩ := untilEnd_of_units hunits (List.forall_mem_cons.mp hne).2 hvtokens
      (hvfault.trans hfault) (Nat.le_refl _)
    exact ⟨us, document_ok.mpr ⟨a, vs, as, hvs, hus, rfl⟩⟩

theorem untilEnd_error {units : List (List Token)} (hunits : Units P item as units) {t : Token}
    {rest : List Token} (ht : ∀ vs : Tokens, vs.tokens.head? = some t → ∀ r, item vs ≠ .ok r)
    (htokens : ts.tokens = units.flatten ++ t :: rest) (n : Nat) (more : List α) :
    untilEnd item n ts ≠ .ok (more, us) := by
  intro h
  have hne : ts.tokens ≠ [] := by simp [htokens]
  cases n with
  | zero => cases h
  | succ n =>
    induction hunits generalizing ts n more with
    | nil =>
      obtain ⟨a, middle, _, ha, -⟩ := (untilEnd_item hne).mp h
      exact ht ts (by simp [htokens]) _ ha
    | @cons a u as units hunit hunits ih =>
      obtain ⟨b, middle, more, hb, hmore, rfl⟩ := (untilEnd_item hne).mp h
      obtain ⟨vs, hvs, hvtokens, -⟩ := hunit.2 ts (units.flatten ++ t :: rest)
        (by rw [htokens]; simp) trivial
      obtain ⟨rfl, rfl⟩ := Prod.mk.inj (Except.ok.inj (hvs.symm.trans hb))
      cases n with
      | zero => cases hmore
      | succ n => exact ih hvtokens more (by simp [hvtokens]) n hmore

theorem document_error {units : List (List Token)} (hunits : Units P item as units) {t : Token}
    {rest : List Token} (ht : ∀ vs : Tokens, vs.tokens.head? = some t → ∀ r, item vs ≠ .ok r)
    (htokens : ts.tokens = units.flatten ++ t :: rest) (more : List α) :
    document item ts ≠ .ok (more, us) := by
  intro h
  obtain ⟨n, hn⟩ := untilEnd_of_document h (by simp [htokens])
  exact untilEnd_error hunits ht htokens n more hn

end Documents

end Reader

end QueryModel.Syntax
