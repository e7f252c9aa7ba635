import Mathlib.Algebra.Order.Group.Basic
import Mathlib.Tactic.Abel
import Mathlib.Tactic.Ring

/-!
# Uses counted in windows

Something may be used so often in a window of time.  A window begins with a use, when there
is none or when the one before is over, and a reset forgets it.  A use goes by a reading of the
clock that may be older than the use itself: it has waited in between, and others that read the
clock later may have come first.

## Main definitions

* `Window`, `Window.use` — a window, and what a use makes of it.
* `Event`, `after`, `admitted` — uses and resets, the window they leave, and the uses they
  admit.
* `Chronological` — the uses follow each other in time, each after its reading.
* `Within` — no use waits longer than a delay.

## Main results

* `length_admitted_le` — from any window on, so many uses are admitted until a time.
* `length_admitted_span` — **over so many windows, one more than these are used up, and one
  for every reset**, when the delays are taken off the time.
* `full_of_refused` — a use is refused only when the limit was admitted since a window before its
  reading.
-/

namespace Windows

/-- A window that has begun, and how often it has been used. -/
structure Window (T : Type*) where
  startedAt : T
  count : ℕ

/-- A use that goes by a reading of the clock and comes at a time, or a reset. -/
inductive Event (T : Type*)
  | use (readAt now : T)
  | reset

variable {T : Type*}

/-- How often there is a reset among some events; each one may admit a whole window more. -/
def resets : List (Event T) → ℕ
  | [] => 0
  | .use _ _ :: events => resets events
  | .reset :: events => resets events + 1

theorem resets_append (events events' : List (Event T)) :
    resets (events ++ events') = resets events + resets events' := by
  induction events with
  | nil => exact (Nat.zero_add _).symm
  | cons event events ih =>
    cases event with
    | use => exact ih
    | reset =>
      simp only [List.cons_append, resets, ih]
      omega

/-! ### Time -/

section Order

variable [LinearOrder T] {start start' stop : T} {events : List (Event T)}

/-- The uses follow each other from a time on, and none comes before its reading. -/
def Chronological : T → List (Event T) → Prop
  | _, [] => True
  | start, .use readAt now :: events => start ≤ now ∧ readAt ≤ now ∧ Chronological now events
  | start, .reset :: events => Chronological start events

theorem Chronological.from_earlier (h : Chronological start events)
    (hstart : start' ≤ start) : Chronological start' events := by
  induction events with
  | nil => trivial
  | cons event events ih =>
    cases event with
    | use readAt now => exact ⟨hstart.trans h.1, h.2⟩
    | reset => exact ih h

theorem Chronological.readAt_le {readAt now : T} (h : Chronological start events)
    (hmem : .use readAt now ∈ events) : readAt ≤ now := by
  induction events generalizing start with
  | nil => exact absurd hmem List.not_mem_nil
  | cons event events ih =>
    rcases List.mem_cons.mp hmem with rfl | hlater
    · exact h.2.1
    · cases event with
      | use t u => exact ih h.2.2 hlater
      | reset => exact ih h hlater

/-- Events that follow each other, and then others. -/
theorem Chronological.append {events' : List (Event T)} (h : Chronological start events)
    (hstart : start ≤ stop) (hstop : ∀ readAt now, .use readAt now ∈ events → now ≤ stop)
    (h' : Chronological stop events') : Chronological start (events ++ events') := by
  induction events generalizing start with
  | nil => exact h'.from_earlier hstart
  | cons event events ih =>
    have hstop' : ∀ readAt now, .use readAt now ∈ events → now ≤ stop := fun readAt now hnow =>
      hstop readAt now (List.mem_cons_of_mem _ hnow)
    cases event with
    | use readAt now =>
      exact ⟨h.1, h.2.1, ih h.2.2 (hstop readAt now List.mem_cons_self) hstop'⟩
    | reset => exact ih h hstart hstop'

/-- The window, if there is one, has begun by a time. -/
def Begun (start : T) (window : Option (Window T)) : Prop := ∀ w ∈ window, w.startedAt ≤ start

theorem begun_none : Begun start none := fun _ hw => by cases hw

theorem begun_some {w : Window T} (h : w.startedAt ≤ start) : Begun start (some w) :=
  fun _ hw => by cases hw; exact h

/-- As many uses as a window counts were admitted since it began. -/
def Counted (window : Option (Window T)) (times : List T) : Prop :=
  ∀ w ∈ window, w.count ≤ (times.filter (w.startedAt ≤ ·)).length

end Order

/-! ### Uses -/

variable [AddCommGroup T] [LinearOrder T]

/-- What a use makes of the window before it; none if it is refused.  A reading from before the
window began is counted in it. -/
def Window.use (limit : ℕ) (length : T) (readAt : T) : Option (Window T) → Option (Window T)
  | none => some ⟨readAt, 1⟩
  | some window =>
    if length ≤ readAt - window.startedAt then some ⟨readAt, 1⟩
    else if limit ≤ window.count then none
    else some { window with count := window.count + 1 }

/-- The window that an event leaves: a use that is refused leaves the one there was, and a reset
none at all. -/
def step (limit : ℕ) (length : T) (window : Option (Window T)) : Event T → Option (Window T)
  | .use readAt _ => (Window.use limit length readAt window).or window
  | .reset => none

/-- The window that some events leave, of which there is none where the last of them was a reset. -/
def after (limit : ℕ) (length : T) (window : Option (Window T)) (events : List (Event T)) :
    Option (Window T) :=
  events.foldl (step limit length) window

/-- When the uses came that are admitted, in the order in which they are counted and not in the one
in which the clock was read. -/
def admitted (limit : ℕ) (length : T) : Option (Window T) → List (Event T) → List T
  | _, [] => []
  | window, .use readAt now :: events =>
    if (Window.use limit length readAt window).isSome then
      now :: admitted limit length (step limit length window (.use readAt now)) events
    else admitted limit length window events
  | _, .reset :: events => admitted limit length none events

section Counting

variable {limit : ℕ} {length start stop readAt now : T} {window : Option (Window T)}
  {events : List (Event T)} {times : List T}

theorem use_of_over {w : Window T} (h : length ≤ readAt - w.startedAt) :
    Window.use limit length readAt (some w) = some ⟨readAt, 1⟩ := by
  simp only [Window.use, if_pos h]

theorem use_of_full {w : Window T} (h : ¬length ≤ readAt - w.startedAt) (hfull : limit ≤ w.count) :
    Window.use limit length readAt (some w) = none := by
  simp only [Window.use, if_neg h, if_pos hfull]

theorem use_of_room {w : Window T} (h : ¬length ≤ readAt - w.startedAt)
    (hroom : ¬limit ≤ w.count) :
    Window.use limit length readAt (some w) = some { w with count := w.count + 1 } := by
  simp only [Window.use, if_neg h, if_neg hroom]

@[simp] theorem admitted_nil : admitted limit length window [] = [] := rfl

@[simp] theorem admitted_reset :
    admitted limit length window (.reset :: events) = admitted limit length none events := rfl

theorem admitted_of_use {window' : Window T}
    (h : Window.use limit length readAt window = some window') :
    admitted limit length window (.use readAt now :: events)
      = now :: admitted limit length (some window') events := by
  simp only [admitted, step, h, Option.isSome_some, if_true, Option.some_or]

theorem admitted_of_refused (h : Window.use limit length readAt window = none) :
    admitted limit length window (.use readAt now :: events)
      = admitted limit length window events := by
  simp only [admitted, h, Option.isSome_none, Bool.false_eq_true, if_false]

@[simp] theorem after_nil : after limit length window [] = window := rfl

@[simp] theorem after_cons (event : Event T) : after limit length window (event :: events)
    = after limit length (step limit length window event) events := rfl

theorem after_append (events' : List (Event T)) :
    after limit length window (events ++ events')
      = after limit length (after limit length window events) events' :=
  List.foldl_append

theorem admitted_append (events' : List (Event T)) :
    admitted limit length window (events ++ events')
      = admitted limit length window events
        ++ admitted limit length (after limit length window events) events' := by
  induction events generalizing window with
  | nil => rfl
  | cons event events ih =>
    cases event with
    | reset => exact ih
    | use readAt now =>
      cases h : Window.use limit length readAt window with
      | none =>
        rw [List.cons_append, admitted_of_refused h, admitted_of_refused h, ih, after_cons, step, h]
        rfl
      | some window' =>
        rw [List.cons_append, admitted_of_use h, admitted_of_use h, ih, after_cons, step, h]
        rfl

/-- A use that is admitted is counted. -/
theorem Counted.use {window' : Window T} (h : Counted window times) (hread : readAt ≤ now)
    (hbegun : Begun now window) (huse : Window.use limit length readAt window = some window') :
    Counted (some window') (times ++ [now]) ∧ window'.startedAt ≤ now := by
  have hopened : Counted (some (⟨readAt, 1⟩ : Window T)) (times ++ [now]) := by
    rintro _ ⟨⟩
    have hlast : [now].filter (readAt ≤ ·) = [now] := by simp [hread]
    rw [List.filter_append, List.length_append, hlast]
    exact Nat.le_add_left _ _
  cases window with
  | none =>
    cases huse
    exact ⟨hopened, hread⟩
  | some w =>
    by_cases hover : length ≤ readAt - w.startedAt
    · rw [use_of_over hover] at huse
      cases huse
      exact ⟨hopened, hread⟩
    · by_cases hfull : limit ≤ w.count
      · rw [use_of_full hover hfull] at huse
        cases huse
      · rw [use_of_room hover hfull] at huse
        cases huse
        have hbegan : w.startedAt ≤ now := hbegun w rfl
        refine ⟨?_, hbegan⟩
        rintro _ ⟨⟩
        have hcount := h w rfl
        have hlast : [now].filter (w.startedAt ≤ ·) = [now] := by simp [hbegan]
        rw [List.filter_append, List.length_append, hlast]
        exact Nat.succ_le_succ hcount

/-- The window that an event leaves has begun by then. -/
theorem begun_step {event : Event T} (hbegun : Begun stop window)
    (hstop : ∀ readAt now, event = .use readAt now → readAt ≤ stop) :
    Begun stop (step limit length window event) := by
  cases event with
  | reset => exact begun_none
  | use readAt now =>
    have hread : readAt ≤ stop := hstop readAt now rfl
    cases window with
    | none => exact begun_some hread
    | some w =>
      have hbegan : w.startedAt ≤ stop := hbegun w rfl
      by_cases hover : length ≤ readAt - w.startedAt
      · rw [step, use_of_over hover]
        exact begun_some hread
      by_cases hfull : limit ≤ w.count
      · rw [step, use_of_full hover hfull]
        exact begun_some hbegan
      · rw [step, use_of_room hover hfull]
        exact begun_some hbegan

/-- The window that events leave has begun by the time of the last. -/
theorem begun_after (hbegun : Begun start window) (htime : Chronological start events)
    (hstart : start ≤ stop) (hstop : ∀ readAt now, .use readAt now ∈ events → now ≤ stop) :
    Begun stop (after limit length window events) := by
  have hbegun' : Begun stop window := fun w hw => (hbegun w hw).trans hstart
  clear hbegun
  induction events generalizing window start with
  | nil => exact hbegun'
  | cons event events ih =>
    have hstop' : ∀ readAt now, .use readAt now ∈ events → now ≤ stop := fun readAt now hnow =>
      hstop readAt now (List.mem_cons_of_mem _ hnow)
    cases event with
    | reset => exact ih htime hstart hstop' begun_none
    | use readAt now =>
      obtain ⟨-, hread, htime⟩ := htime
      have hnow : now ≤ stop := hstop readAt now List.mem_cons_self
      refine ih htime hnow hstop' (begun_step hbegun' ?_)
      rintro _ _ ⟨⟩
      exact hread.trans hnow

/-- **A window counts what was admitted since it began.** -/
theorem counted_after (hcounted : Counted window times) (hbegun : Begun start window)
    (htime : Chronological start events) : Counted (after limit length window events)
      (times ++ admitted limit length window events) := by
  induction events generalizing window start times with
  | nil => rwa [admitted_nil, List.append_nil]
  | cons event events ih =>
    cases event with
    | reset => exact ih (fun _ hw => by cases hw) begun_none htime
    | use readAt now =>
      obtain ⟨hstart, hread, htime⟩ := htime
      have hbegun' : Begun now window := fun w hw => (hbegun w hw).trans hstart
      cases huse : Window.use limit length readAt window with
      | none =>
        rw [admitted_of_refused huse, after_cons, step, huse, Option.none_or]
        exact ih hcounted hbegun' htime
      | some window' =>
        obtain ⟨hcounted', hbegan⟩ := hcounted.use hread hbegun' huse
        rw [admitted_of_use huse, after_cons, step, huse, Option.some_or, List.append_cons]
        exact ih hcounted' (begun_some hbegan) htime

variable [IsOrderedAddMonoid T] {delay : T}

/-- No use waits longer than this from its reading on. -/
def Within (delay : T) (events : List (Event T)) : Prop :=
  ∀ readAt now, .use readAt now ∈ events → now ≤ readAt + delay

omit [IsOrderedAddMonoid T] in
theorem Within.tail {event : Event T} (h : Within delay (event :: events)) : Within delay events :=
  fun readAt now hmem => h readAt now (List.mem_cons_of_mem event hmem)

omit [IsOrderedAddMonoid T] in
theorem Within.append {events' : List (Event T)} (h : Within delay events)
    (h' : Within delay events') : Within delay (events ++ events') :=
  fun readAt now hmem => (List.mem_append.mp hmem).elim (h readAt now) (h' readAt now)

/-- How often the window can still be used before it refuses, whatever the clock says. -/
def remaining (limit : ℕ) : Option (Window T) → ℕ
  | none => 0
  | some window => limit - window.count

/-- From which reading on another window can begin: none that is older than the delay comes. -/
def free (length delay start : T) : Option (Window T) → T
  | none => start - delay
  | some window => max (start - delay) (window.startedAt + length)

/-- A use that comes too late for the window there is begins one of those that are left. -/
theorem exists_span_of_use {k : ℕ} {waits : T} (hwaits : 0 ≤ waits) (hread : readAt < stop)
    (hspan : stop + waits ≤ readAt + k • length) :
    ∃ j, k = j + 1 ∧ stop + waits ≤ free length delay now (some ⟨readAt, 1⟩) + j • length := by
  cases k with
  | zero =>
    rw [zero_nsmul, add_zero] at hspan
    exact absurd (hread.trans_le ((le_add_of_nonneg_right hwaits).trans hspan)) (lt_irrefl _)
  | succ j =>
    refine ⟨j, rfl, hspan.trans ?_⟩
    calc readAt + (j + 1) • length = readAt + length + j • length := by rw [succ_nsmul]; abel
      _ ≤ free length delay now (some ⟨readAt, 1⟩) + j • length :=
        add_le_add_left (le_max_right _ _) _

/-- A reset frees what is left of a window, and the delay: the next may begin with a reading from
before the reset. -/
theorem free_le_of_reset (hlength : 0 < length) (hdelay : 0 ≤ delay) (hbegun : Begun start window) :
    free length delay start window ≤ free length delay start (none : Option (Window T))
      + length + delay := by
  have hnone : free length delay start (none : Option (Window T)) + length + delay
      = start + length := by
    simp only [free]
    abel
  rw [hnone]
  cases window with
  | none =>
    calc start - delay ≤ start := sub_le_self start hdelay
      _ ≤ start + length := le_add_of_nonneg_right hlength.le
  | some w =>
    refine max_le ?_ (add_le_add_left (hbegun w rfl) length)
    exact (sub_le_self start hdelay).trans (le_add_of_nonneg_right hlength.le)

/-- **Until a reading, the window there is can be used up, and so many others.** -/
theorem length_admitted_le (hlimit : 0 < limit) (hlength : 0 < length) (hdelay : 0 ≤ delay) {k : ℕ}
    (hbegun : Begun start window) (htime : Chronological start events)
    (hwithin : Within delay events) (hstop : ∀ readAt now, .use readAt now ∈ events → readAt < stop)
    (hspan : stop + resets events • delay ≤ free length delay start window + k • length) :
    (admitted limit length window events).length
      ≤ remaining limit window + limit * (k + resets events) := by
  induction events generalizing window start k with
  | nil => simp
  | cons event events ih =>
    have hstop' : ∀ readAt now, .use readAt now ∈ events → readAt < stop := fun readAt now hnow =>
      hstop readAt now (List.mem_cons_of_mem _ hnow)
    have hwithin' := hwithin.tail
    cases event with
    | reset =>
      -- another window can begin at once, by a reading that may be as old as the delay
      have hfree := free_le_of_reset hlength hdelay hbegun
      have hspan' : stop + resets events • delay
          ≤ free length delay start (none : Option (Window T)) + (k + 1) • length := by
        have hboth := hspan.trans (add_le_add_left hfree (k • length))
        simp only [resets, succ_nsmul] at hboth
        have hmoved : stop + resets events • delay + delay
            ≤ free length delay start (none : Option (Window T)) + (k + 1) • length + delay := by
          calc stop + resets events • delay + delay = stop + (resets events • delay + delay) := by abel
            _ ≤ _ := hboth
            _ = free length delay start (none : Option (Window T)) + (k + 1) • length + delay := by
              rw [succ_nsmul]
              abel
        exact le_of_add_le_add_right hmoved
      have hrest := ih begun_none htime hwithin' hstop' hspan'
      have hsum : k + 1 + resets events = k + resets (.reset :: events) := by
        simp only [resets]
        omega
      rw [hsum, remaining, Nat.zero_add] at hrest
      exact hrest.trans (Nat.le_add_left _ _)
    | use readAt now =>
      obtain ⟨hstart, hread, htime⟩ := htime
      have hstopped : readAt < stop := hstop readAt now List.mem_cons_self
      have hwaited : now ≤ readAt + delay := hwithin readAt now List.mem_cons_self
      have hearliest : start - delay ≤ readAt := sub_le_iff_le_add.mpr (hstart.trans hwaited)
      simp only [resets] at hspan ⊢
      -- a window that this use begins
      have hopens : stop + resets events • delay ≤ readAt + k • length →
          (admitted limit length (some ⟨readAt, 1⟩) events).length + 1
            ≤ limit * (k + resets events) := by
        intro hspan
        obtain ⟨j, rfl, hspan'⟩ : ∃ j, k = j + 1 ∧ stop + resets events • delay
            ≤ free length delay now (some ⟨readAt, 1⟩) + j • length :=
          exists_span_of_use (nsmul_nonneg hdelay _) hstopped hspan
        have hbegun' : Begun now (some (⟨readAt, 1⟩ : Window T)) := begun_some hread
        have hrest : (admitted limit length (some ⟨readAt, 1⟩) events).length
            ≤ limit - 1 + limit * (j + resets events) :=
          ih hbegun' htime hwithin' hstop' hspan'
        have hsum : limit * (j + 1 + resets events) = limit + limit * (j + resets events) := by ring
        omega
      cases window with
      | none =>
        have hspan' : stop + resets events • delay ≤ readAt + k • length :=
          hspan.trans (add_le_add_left hearliest _)
        rw [admitted_of_use rfl, List.length_cons]
        exact (hopens hspan').trans (Nat.le_add_left _ _)
      | some w =>
        have hbegan : w.startedAt ≤ start := hbegun w rfl
        by_cases hover : length ≤ readAt - w.startedAt
        · have hspan' : stop + resets events • delay ≤ readAt + k • length := by
            refine hspan.trans (add_le_add_left (max_le hearliest ?_) _)
            exact add_comm length w.startedAt ▸ le_sub_iff_add_le.mp hover
          rw [admitted_of_use (use_of_over hover), List.length_cons]
          exact (hopens hspan').trans (Nat.le_add_left _ _)
        · -- the use falls into the window there is
          have hfree : free length delay start (some w) ≤ free length delay now (some w) :=
            max_le_max (sub_le_sub_right hstart delay) le_rfl
          have hspan' := hspan.trans (add_le_add_left hfree (k • length))
          by_cases hfull : limit ≤ w.count
          · rw [admitted_of_refused (use_of_full hover hfull)]
            exact ih (begun_some (hbegan.trans hstart)) htime hwithin' hstop' hspan'
          · have hbegun' : Begun now (some { w with count := w.count + 1 }) :=
              begun_some (hbegan.trans hstart)
            have hrest := ih hbegun' htime hwithin' hstop' hspan'
            rw [admitted_of_use (use_of_room hover hfull), List.length_cons]
            simp only [remaining] at hrest ⊢
            omega

/-- **A use is refused only when the limit was admitted since a window before its reading.** -/
theorem full_of_refused (htime : Chronological start events)
    (hrefused : Window.use limit length readAt (after limit length none events) = none) :
    limit ≤ ((admitted limit length none events).filter (readAt - length < ·)).length := by
  have hnone : Counted (none : Option (Window T)) [] := fun _ hw => by cases hw
  have hcounted : Counted (after limit length none events)
      ([] ++ admitted limit length none events) := counted_after hnone begun_none htime
  cases hafter : after limit length none events with
  | none =>
    rw [hafter] at hrefused
    cases hrefused
  | some w =>
    rw [hafter] at hrefused hcounted
    by_cases hover : length ≤ readAt - w.startedAt
    · rw [use_of_over hover] at hrefused
      cases hrefused
    by_cases hfull : limit ≤ w.count
    · have hrecent : readAt - length < w.startedAt := sub_lt_comm.mp (not_le.mp hover)
      refine (hfull.trans (hcounted w rfl)).trans ?_
      rw [List.nil_append, ← List.countP_eq_length_filter, ← List.countP_eq_length_filter]
      refine List.countP_mono_left fun t _ ht => ?_
      exact decide_eq_true (hrecent.trans_le (of_decide_eq_true ht))
    · rw [use_of_room hover hfull] at hrefused
      cases hrefused

/-- **Over so many windows, one more than these are used up, and one for every reset.**  The delay
counts against the time once, and once more for every reset. -/
theorem length_admitted_span (hlimit : 0 < limit) (hlength : 0 < length) (hdelay : 0 ≤ delay)
    (k : ℕ) (hbegun : Begun start window) (htime : Chronological start events)
    (hwithin : Within delay events) (hstop : ∀ readAt now, .use readAt now ∈ events →
      readAt + (resets events + 1) • delay < start + k • length) :
    (admitted limit length window events).length ≤ limit * (k + 1 + resets events) := by
  have hfree : start - delay ≤ free length delay start window := by
    cases window with
    | none => exact le_rfl
    | some w => exact le_max_left _ _
  have hspan : start + k • length - (resets events + 1) • delay + resets events • delay
      ≤ free length delay start window + k • length := by
    calc start + k • length - (resets events + 1) • delay + resets events • delay
        = start - delay + k • length := by rw [succ_nsmul]; abel
      _ ≤ free length delay start window + k • length := add_le_add_left hfree _
  have hle := length_admitted_le hlimit hlength hdelay hbegun htime hwithin
    (fun readAt now hmem => lt_sub_iff_add_lt.mpr (hstop readAt now hmem)) hspan
  have hremaining : remaining limit window ≤ limit := by
    cases window with
    | none => exact Nat.zero_le _
    | some w => exact Nat.sub_le _ _
  calc (admitted limit length window events).length
      ≤ limit + limit * (k + resets events) := hle.trans (Nat.add_le_add_right hremaining _)
    _ = limit * (k + 1 + resets events) := by ring

end Counting

end Windows
