/-
What becomes of the keys that are typed.

Every key that is printed ends in one of four ways: in a line that was sent, in
the buffer, deleted again, or refused because the buffer was full.  `Accounts` is
the book that is kept of them.  A key is entered in it once, when it is typed; a
delete strikes out the last entry that is in the buffer, and Enter turns all of
those into a line.  So the lines that were sent and the buffer are read off the
book in typing order, whatever order the keys come in.
-/
import Goby3Examples.Lib.Labelling
import Goby3Examples.Chat.Main

namespace Chat

open Labelling

/-- What becomes of a key that is printed. -/
inductive Fate
  /-- In this one of the lines that were sent. -/
  | sent (line : Nat)
  | buffered
  /-- By this one of the keys. -/
  | erased (byKey : Nat)
  | refused
  deriving DecidableEq

/-- The characters with one fate, in typing order; keys are named by their place in the sequence. -/
def charsWith (ks : List UInt32) (fate : Nat → Option Fate) (f : Fate) : Text :=
  (carrying ks.zipIdx fate (some f)).map fun x => toChar x.1

/-- The keys `ks` have these fates; `lines` were sent, and `buffer` is what is left. -/
structure Accounts (keys : Keypad) (full : Nat → Prop) (ks : List UInt32)
    (fate : Nat → Option Fate) (lines : List Text) (buffer : Text) : Prop where
  /-- Every key that is printed has a fate, and no other key has. -/
  typed : ∀ p, (fate p).isSome ↔ ∃ k, ks[p]? = some k ∧ isprint k = true
  sent : ∀ n (h : n < lines.length), lines[n] = charsWith ks fate (.sent n)
  sentLine : ∀ p n, fate p = some (.sent n) → n < lines.length
  buffered : buffer = charsWith ks fate .buffered
  /-- Lines are sent in typing order, and the buffer comes after all of them. -/
  inOrder : ∀ p q m n, p < q → fate p = some (.sent m) → fate q = some (.sent n) → m ≤ n
  bufferLast : ∀ p q n, fate p = some .buffered → fate q = some (.sent n) → q < p
  erased : ∀ p d, fate p = some (.erased d) → p < d ∧ ∃ k, ks[d]? = some k ∧ keys.Deletes k
  erasedOnce : ∀ p q d, fate p = some (.erased d) → fate q = some (.erased d) → p = q
  refused : ∀ p, fate p = some .refused → full p

/-! ### One more key -/

theorem getElem?_concat_eq_some {ks : List UInt32} {k x : UInt32} {p : Nat} :
    (ks ++ [k])[p]? = some x ↔ ks[p]? = some x ∨ (p = ks.length ∧ x = k) := by
  grind

theorem zipIdx_concat (ks : List UInt32) (k : UInt32) :
    (ks ++ [k]).zipIdx = ks.zipIdx ++ [(k, ks.length)] := by
  simp [List.zipIdx_append]

section Chars

variable {ks : List UInt32} {fate : Nat → Option Fate} {f : Fate}

/-- A fate other than the one that is given now was there before. -/
theorem of_update_eq {i p : Nat} {g : Fate} (hg : g ≠ f)
    (hp : Function.update fate i (some f) p = some g) : fate p = some g := by
  have hne : p ≠ i := by
    rintro rfl
    rw [Function.update_self] at hp
    exact hg (Option.some.inj hp).symm
  rwa [Function.update_of_ne hne] at hp

theorem charsWith_concat (k : UInt32) :
    charsWith (ks ++ [k]) fate f =
      charsWith ks fate f ++ if fate ks.length = some f then [toChar k] else [] := by
  rw [charsWith, zipIdx_concat, carrying_append, carrying_singleton, List.map_append]
  split <;> rfl

theorem charsWith_update_length (v : Option Fate) :
    charsWith ks (Function.update fate ks.length v) f = charsWith ks fate f := by
  rw [charsWith, carrying_update_of_notMem, charsWith]
  rw [List.zipIdx_map_snd]
  simp

theorem charsWith_congr {fate' : Nat → Option Fate} {f' : Fate}
    (h : ∀ p, fate p = some f ↔ fate' p = some f') :
    charsWith ks fate f = charsWith ks fate' f' := by
  rw [charsWith, carrying_congr fun x _ => h x.2, charsWith]

theorem charsWith_eq_nil (h : ∀ p, fate p ≠ some f) : charsWith ks fate f = [] := by
  rw [charsWith, List.map_eq_nil_iff, carrying, List.filter_eq_nil_iff]
  intro x _
  simpa using h x.2

end Chars

namespace Accounts

variable {keys : Keypad} {full : Nat → Prop} {ks : List UInt32} {fate : Nat → Option Fate}
  {lines : List Text} {buffer : Text} {k : UInt32}

/-- The next key has no fate yet. -/
theorem fresh (h : Accounts keys full ks fate lines buffer) : fate ks.length = none := by
  rw [← Option.not_isSome_iff_eq_none, h.typed]
  rintro ⟨k, hk, -⟩
  simp at hk

theorem lt_length (h : Accounts keys full ks fate lines buffer) {p : Nat} {f : Fate}
    (hp : fate p = some f) : p < ks.length := by
  obtain ⟨x, hx, -⟩ := (h.typed p).mp (by rw [hp]; rfl)
  exact (List.getElem?_eq_some_iff.mp hx).1

/-- The key that erased another one is still where it was. -/
theorem erased_concat (h : Accounts keys full ks fate lines buffer) {p d : Nat}
    (hp : fate p = some (.erased d)) :
    p < d ∧ ∃ x, (ks ++ [k])[d]? = some x ∧ keys.Deletes x := by
  obtain ⟨hlt, x, hx, hdel⟩ := h.erased p d hp
  exact ⟨hlt, x, getElem?_concat_eq_some.mpr (Or.inl hx), hdel⟩

/-- A key that is not printed is not entered. -/
theorem skip (h : Accounts keys full ks fate lines buffer) (hno : isprint k = false) :
    Accounts keys full (ks ++ [k]) fate lines buffer := by
  have hchars : ∀ f, charsWith (ks ++ [k]) fate f = charsWith ks fate f := by
    intro f
    rw [charsWith_concat, h.fresh, if_neg (by simp), List.append_nil]
  refine
    { h with
      typed := ?_
      sent := fun n hn => (h.sent n hn).trans (hchars _).symm
      buffered := h.buffered.trans (hchars _).symm
      erased := fun p d hp => h.erased_concat hp }
  intro p
  rw [h.typed]
  constructor
  · rintro ⟨x, hx, hprint⟩
    exact ⟨x, getElem?_concat_eq_some.mpr (Or.inl hx), hprint⟩
  · rintro ⟨x, hx, hprint⟩
    rcases getElem?_concat_eq_some.mp hx with hold | ⟨-, rfl⟩
    · exact ⟨x, hold, hprint⟩
    · rw [hno] at hprint
      cases hprint

/-- A key that is printed is entered, as typed or as refused. -/
theorem enter (h : Accounts keys full ks fate lines buffer) (hprint : isprint k = true) {f : Fate}
    (hf : f = .buffered ∨ f = .refused ∧ full ks.length) :
    Accounts keys full (ks ++ [k]) (Function.update fate ks.length (some f)) lines
      (buffer ++ if f = .buffered then [toChar k] else []) := by
  have hnew : Function.update fate ks.length (some f) ks.length = some f :=
    Function.update_self ..
  have hsent : ∀ n, Fate.sent n ≠ f := by
    rintro n rfl
    rcases hf with hf | ⟨hf, -⟩ <;> cases hf
  have herased : ∀ d, Fate.erased d ≠ f := by
    rintro d rfl
    rcases hf with hf | ⟨hf, -⟩ <;> cases hf
  refine ⟨?_, ?_, ?_, ?_, ?_, ?_, ?_, ?_, ?_⟩
  · intro p
    by_cases hp : p = ks.length
    · subst hp
      rw [hnew]
      exact ⟨fun _ => ⟨k, by simp, hprint⟩, fun _ => rfl⟩
    · rw [Function.update_of_ne hp, h.typed]
      refine exists_congr fun x => and_congr_left fun _ => ?_
      rw [getElem?_concat_eq_some]
      exact ⟨Or.inl, fun hx => hx.resolve_right fun hx => hp hx.1⟩
  · intro n hn
    rw [charsWith_concat, charsWith_update_length, hnew, if_neg, List.append_nil]
    · exact h.sent n hn
    · exact fun heq => hsent n (Option.some.inj heq).symm
  · intro p n hp
    exact h.sentLine p n (of_update_eq (hsent n) hp)
  · rw [charsWith_concat, charsWith_update_length, hnew, ← h.buffered]
    simp only [Option.some.injEq]
  · intro p q m n hpq hp hq
    exact h.inOrder p q m n hpq (of_update_eq (hsent m) hp) (of_update_eq (hsent n) hq)
  · intro p q n hp hq
    have hq' := of_update_eq (hsent n) hq
    by_cases heq : p = ks.length
    · exact heq ▸ h.lt_length hq'
    · rw [Function.update_of_ne heq] at hp
      exact h.bufferLast p q n hp hq'
  · intro p d hp
    exact h.erased_concat (of_update_eq (herased d) hp)
  · intro p q d hp hq
    exact h.erasedOnce p q d (of_update_eq (herased d) hp) (of_update_eq (herased d) hq)
  · intro p hp
    by_cases heq : p = ks.length
    · subst heq
      rw [hnew] at hp
      obtain rfl := Option.some.inj hp
      exact (hf.resolve_left (by simp)).2
    · rw [Function.update_of_ne heq] at hp
      exact h.refused p hp

/-- A delete strikes out the last entry in the buffer, if there is one. -/
theorem strike (h : Accounts keys full ks fate lines buffer) {d : Nat} (hd : ks[d]? = some k)
    (hdel : keys.Deletes k) (hlast : ∀ p f, fate p = some f → p < d)
    (hnew : ∀ p, fate p ≠ some (.erased d)) :
    ∃ fate', Accounts keys full ks fate' lines buffer.dropLast := by
  rcases List.eq_nil_or_concat' (carrying ks.zipIdx fate (some .buffered)) with
    hnil | ⟨xs, ⟨x, i⟩, hconcat⟩
  · have hbuffer : buffer = [] := by rw [h.buffered, charsWith, hnil]; rfl
    exact ⟨fate, by simpa [hbuffer] using h⟩
  have hi : fate i = some .buffered := by
    have hmem : (x, i) ∈ carrying ks.zipIdx fate (some .buffered) := by
      rw [hconcat]
      exact List.mem_append_right _ (List.mem_singleton.mpr rfl)
    simpa using (List.mem_filter.mp hmem).2
  have hself : Function.update fate i (some (.erased d)) i = some (.erased d) :=
    Function.update_self ..
  refine ⟨Function.update fate i (some (.erased d)), ?_, ?_, ?_, ?_, ?_, ?_, ?_, ?_, ?_⟩
  · intro p
    rw [← h.typed]
    by_cases hp : p = i
    · subst hp
      rw [hself, hi]
      exact Iff.rfl
    · rw [Function.update_of_ne hp]
  · intro n hn
    rw [h.sent n hn]
    refine charsWith_congr fun p => ⟨fun hp => ?_, of_update_eq (by simp)⟩
    have hne : p ≠ i := by
      rintro rfl
      rw [hi] at hp
      cases hp
    rwa [Function.update_of_ne hne]
  · intro p n hp
    exact h.sentLine p n (of_update_eq (by simp) hp)
  · have hnodup : (ks.zipIdx.map Prod.snd).Nodup := by
      rw [List.zipIdx_map_snd]
      exact List.nodup_range'
    rw [charsWith, carrying_update_last hnodup hconcat (by simp), h.buffered, charsWith, hconcat,
      List.map_append]
    exact List.dropLast_concat
  · intro p q m n hpq hp hq
    exact h.inOrder p q m n hpq (of_update_eq (by simp) hp) (of_update_eq (by simp) hq)
  · intro p q n hp hq
    exact h.bufferLast p q n (of_update_eq (by simp) hp) (of_update_eq (by simp) hq)
  · intro p e hp
    by_cases heq : p = i
    · subst heq
      obtain rfl : d = e := by simpa using hself.symm.trans hp
      exact ⟨hlast p _ hi, k, hd, hdel⟩
    · rw [Function.update_of_ne heq] at hp
      exact h.erased p e hp
  · -- what this key strikes out, no other key has
    have honly : ∀ p, Function.update fate i (some (.erased d)) p = some (.erased d) → p = i := by
      intro p hp
      by_contra hne
      rw [Function.update_of_ne hne] at hp
      exact hnew p hp
    intro p q e hp hq
    by_cases he : e = d
    · subst he
      rw [honly p hp, honly q hq]
    · have hne : Fate.erased e ≠ .erased d := by simpa using he
      exact h.erasedOnce p q e (of_update_eq hne hp) (of_update_eq hne hq)
  · intro p hp
    exact h.refused p (of_update_eq (by simp) hp)

/-- Enter turns all that is in the buffer into the next line. -/
theorem flush (h : Accounts keys full ks fate lines buffer) :
    ∃ fate', Accounts keys full ks fate' (lines ++ [buffer]) [] := by
  let fate' : Nat → Option Fate := fun p =>
    if fate p = some .buffered then some (.sent lines.length) else fate p
  have hmoved : ∀ p, fate p = some .buffered → fate' p = some (.sent lines.length) :=
    fun p hp => if_pos hp
  have hkept : ∀ p, fate p ≠ some .buffered → fate' p = fate p := fun p hp => if_neg hp
  -- what a fate after the move says about the one before it
  have hsent : ∀ p n, fate' p = some (.sent n) →
      fate p = some .buffered ∧ n = lines.length ∨ fate p = some (.sent n) ∧ n < lines.length := by
    intro p n hp
    by_cases hb : fate p = some .buffered
    · rw [hmoved p hb] at hp
      exact Or.inl ⟨hb, (Fate.sent.inj (Option.some.inj hp)).symm⟩
    · rw [hkept p hb] at hp
      exact Or.inr ⟨hp, h.sentLine p n hp⟩
  have hother : ∀ p f, (∀ n, f ≠ .sent n) → fate' p = some f →
      f ≠ .buffered ∧ fate p = some f := by
    intro p f hf hp
    by_cases hb : fate p = some .buffered
    · rw [hmoved p hb] at hp
      exact absurd (Option.some.inj hp).symm (hf _)
    · rw [hkept p hb] at hp
      refine ⟨?_, hp⟩
      rintro rfl
      exact hb hp
  have hnone : ∀ p, fate' p ≠ some .buffered := fun p hp => (hother p _ (by simp) hp).1 rfl
  refine ⟨fate', ?_, ?_, ?_, ?_, ?_, ?_, ?_, ?_, ?_⟩
  · intro p
    rw [← h.typed]
    by_cases hb : fate p = some .buffered
    · rw [hmoved p hb, hb]
      exact Iff.rfl
    · rw [hkept p hb]
  · intro n hn
    by_cases hlt : n < lines.length
    · rw [List.getElem_append_left hlt, h.sent n hlt]
      refine charsWith_congr fun p => ⟨fun hp => ?_, fun hp => ?_⟩
      · rw [hkept p (by rw [hp]; simp), hp]
      · rcases hsent p n hp with ⟨-, hlast⟩ | ⟨hp, -⟩
        · omega
        · exact hp
    · obtain rfl : n = lines.length := by
        have : n < lines.length + 1 := by simpa using hn
        omega
      rw [List.getElem_concat_length rfl, h.buffered]
      refine charsWith_congr fun p => ⟨hmoved p, fun hp => ?_⟩
      rcases hsent p _ hp with ⟨hp, -⟩ | ⟨-, hlt⟩
      · exact hp
      · omega
  · intro p n hp
    rw [List.length_append, List.length_singleton]
    rcases hsent p n hp with ⟨-, rfl⟩ | ⟨-, hlt⟩
    · exact Nat.lt_succ_self _
    · exact Nat.lt_succ_of_lt hlt
  · exact (charsWith_eq_nil hnone).symm
  · intro p q m n hpq hp hq
    rcases hsent p m hp with ⟨hb, rfl⟩ | ⟨hp, hlt⟩
    · rcases hsent q n hq with ⟨-, rfl⟩ | ⟨hq, -⟩
      · exact Nat.le_refl _
      · exact absurd hpq (Nat.not_lt.mpr (Nat.le_of_lt (h.bufferLast p q n hb hq)))
    · rcases hsent q n hq with ⟨-, rfl⟩ | ⟨hq, -⟩
      · exact Nat.le_of_lt hlt
      · exact h.inOrder p q m n hpq hp hq
  · intro p q n hp
    exact absurd hp (hnone p)
  · intro p d hp
    exact h.erased p d (hother p _ (by simp) hp).2
  · intro p q d hp hq
    exact h.erasedOnce p q d (hother p _ (by simp) hp).2 (hother q _ (by simp) hq).2
  · intro p hp
    exact h.refused p (hother p _ (by simp) hp).2

/-- **One call of `run_input` keeps the book.** -/
theorem input {c : ChatCurses} {r : ChatCurses × Text}
    (h : Accounts keys full ks fate lines c.lineBuffer) (hin : Input keys c k r)
    (hfull : MAX_LINE ≤ c.lineBuffer.length → full ks.length) :
    ∃ fate', Accounts keys full (ks ++ [k]) fate' (if r.2 ≠ [] then lines ++ [r.2] else lines)
      r.1.lineBuffer := by
  cases hin with
  | delete hdel hno =>
      rw [if_neg (by simp)]
      refine (h.skip hno).strike (d := ks.length) (k := k) (by simp) hdel ?_ ?_
      · exact fun p f hp => h.lt_length hp
      · intro p hp
        obtain ⟨-, x, hx, -⟩ := h.erased p _ hp
        simp at hx
  | send _ hno hline =>
      rw [if_pos hline]
      exact (h.skip hno).flush
  | resize _ hno =>
      rw [if_neg (by simp)]
      exact ⟨fate, h.skip hno⟩
  | type hprint _ =>
      rw [if_neg (by simp)]
      exact ⟨_, h.enter hprint (Or.inl rfl)⟩
  | refuse hprint hroom =>
      rw [if_neg (by simp)]
      have hrefused := h.enter hprint (Or.inr ⟨rfl, hfull hroom⟩)
      exact ⟨_, by simpa using hrefused⟩
  | ignore hno =>
      rw [if_neg (by simp)]
      exact ⟨fate, h.skip hno⟩

end Accounts

/-! ### The whole program -/

/-- Neither the buffer nor a line that is returned gets longer than `MAX_LINE`. -/
theorem Input.length_le {keys : Keypad} {c : ChatCurses} {k : UInt32} {r : ChatCurses × Text}
    (h : Input keys c k r) (hc : c.lineBuffer.length ≤ MAX_LINE) :
    r.1.lineBuffer.length ≤ MAX_LINE ∧ r.2.length ≤ MAX_LINE := by
  cases h with
  | delete =>
      refine ⟨?_, Nat.zero_le _⟩
      rw [List.length_dropLast]
      exact Nat.le_trans (Nat.sub_le _ _) hc
  | send => exact ⟨Nat.zero_le _, hc⟩
  | resize => exact ⟨hc, Nat.zero_le _⟩
  | type _ hroom =>
      refine ⟨?_, Nat.zero_le _⟩
      rw [List.length_append]
      exact hroom
  | refuse => exact ⟨hc, Nat.zero_le _⟩
  | ignore => exact ⟨hc, Nat.zero_le _⟩

namespace Program

variable (keys : Keypad) (myId buddyId : Int)

/-- The limit in the header is the one the message has. -/
theorem max_line_eq : MAX_LINE = telegramMaxLength := rfl

theorem map_telegram_input (s : Program) (key : UInt32) :
    (s.input keys key).pushed.map (·.telegram) =
      if (s.curses.runInput keys [] key).2 ≠ [] then
        s.pushed.map (·.telegram) ++ [(s.curses.runInput keys [] key).2]
      else s.pushed.map (·.telegram) := by
  simp only [input]
  split
  · rw [List.map_append, List.map_singleton]
  · rfl

theorem lineBuffer_length_le (ts : List Turn) :
    (run keys myId buddyId ts).curses.lineBuffer.length ≤ MAX_LINE := by
  induction ts using List.reverseRecOn with
  | nil => exact Nat.zero_le _
  | append_singleton ts t ih =>
      rw [run_snoc, (turn_sameLine keys _ t).lineBuffer]
      exact ((runInput_input keys _ t.key).length_le ih).1

theorem telegram_fits (ts : List Turn) :
    ∀ m ∈ (run keys myId buddyId ts).pushed,
      m.telegram ≠ [] ∧ m.telegram.length ≤ telegramMaxLength := by
  induction ts using List.reverseRecOn with
  | nil => exact fun m hm => absurd hm List.not_mem_nil
  | append_singleton ts t ih =>
      rw [run_snoc, (turn_sameLine keys _ t).pushed]
      have hlength := ((runInput_input keys _ t.key).length_le
        (lineBuffer_length_le keys myId buddyId ts)).2
      intro m hm
      simp only [input] at hm
      split at hm
      · next hline =>
          rcases List.mem_append.mp hm with hold | hnew
          · exact ih m hold
          · obtain rfl := List.mem_singleton.mp hnew
            exact ⟨hline, max_line_eq ▸ hlength⟩
      · exact ih m hm

/-- The buffer was full when this key came. -/
def FullAt (ts : List Turn) (p : Nat) : Prop :=
  (run keys myId buddyId (ts.take p)).curses.lineBuffer.length = MAX_LINE

/-- The book after part of a run. -/
theorem accounts_prefix {ts pre : List Turn} (hpre : pre <+: ts) :
    ∃ fate, Accounts keys (FullAt keys myId buddyId ts) (pre.map (·.key)) fate
      ((run keys myId buddyId pre).pushed.map (·.telegram))
      (run keys myId buddyId pre).curses.lineBuffer := by
  induction pre using List.reverseRecOn with
  | nil =>
      refine ⟨fun _ => none, ?_⟩
      constructor <;> simp [run, start, ChatCurses.startup, ChatCurses.updateSize,
        ChatCurses.setModemId, charsWith, carrying]
  | append_singleton pre t ih =>
      have hold := (List.prefix_append pre [t]).trans hpre
      obtain ⟨fate, hfate⟩ := ih hold
      have hfull : MAX_LINE ≤ (run keys myId buddyId pre).curses.lineBuffer.length →
          FullAt keys myId buddyId ts (pre.map (·.key)).length := by
        intro hge
        rw [FullAt, List.length_map, ← List.prefix_iff_eq_take.mp hold]
        exact Nat.le_antisymm (lineBuffer_length_le keys myId buddyId pre) hge
      obtain ⟨fate', hfate'⟩ := hfate.input (runInput_input keys _ t.key) hfull
      refine ⟨fate', ?_⟩
      have hsame := turn_sameLine keys (run keys myId buddyId pre) t
      rw [List.map_append, List.map_singleton, run_snoc, hsame.pushed, hsame.lineBuffer,
        map_telegram_input]
      exact hfate'

/-- What holds of the line being typed and of the lines that were sent. -/
structure LinesKept (ts : List Turn) : Prop where
  bufferFits : (run keys myId buddyId ts).curses.lineBuffer.length ≤ MAX_LINE
  bufferPrintable : ∀ ch ∈ (run keys myId buddyId ts).curses.lineBuffer, Printable ch
  telegramFits : ∀ m ∈ (run keys myId buddyId ts).pushed,
    m.telegram ≠ [] ∧ m.telegram.length ≤ telegramMaxLength
  accounted : ∃ fate, Accounts keys (FullAt keys myId buddyId ts) (ts.map (·.key)) fate
    ((run keys myId buddyId ts).pushed.map (·.telegram))
    (run keys myId buddyId ts).curses.lineBuffer

/--
**Every line fits its message, and no key is lost or doubled**, whichever keys
come in whichever order.
-/
theorem linesKept (ts : List Turn) : LinesKept keys myId buddyId ts where
  bufferFits := lineBuffer_length_le keys myId buddyId ts
  bufferPrintable := run_printable keys myId buddyId ts
  telegramFits := telegram_fits keys myId buddyId ts
  accounted := accounts_prefix keys myId buddyId List.prefix_rfl

end Program

end Chat
