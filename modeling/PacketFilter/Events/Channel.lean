import PacketFilter.Events.FileEventSource

/-! Commands sent by rewriting the watched file, one line at a time. -/

namespace PacketFilter.Events

open Library.Machines Library.Scanning

inductive Draft where
  | closed
  | truncated (text : Text)
  | written
  deriving DecidableEq

structure Channel where
  watch : Watch
  todo : List Text
  draft : Draft
  written : List Text
  deriving DecidableEq

def Channel.start (content : Text) (texts : List Text) : Channel := ⟨.start content 0, texts, .closed, []⟩

inductive Move where
  | truncate
  | write
  | close
  | listen (a : Act)
  deriving DecidableEq

def Act.listens : Act → Bool
  | .poll | .readEvents | .openStream | .getline | .callback => true
  | _ => false

def Channel.step (c : Channel) : Move → Option Channel
  | .truncate =>
      match c.draft, c.todo with
      | .closed, text :: todo =>
          ((Events.step c.watch .openFile).bind (Events.step · (.truncate 0))).map fun watch =>
            { c with watch := watch, todo := todo, draft := .truncated text }
      | _, _ => none
  | .write =>
      match c.draft with
      | .truncated text => (Events.step c.watch (.write 0 text)).map fun watch =>
          { c with watch := watch, draft := .written, written := c.written ++ [text] }
      | _ => none
  | .close =>
      match c.draft with
      | .written => (Events.step c.watch (.close false)).map fun watch =>
          { c with watch := watch, draft := .closed }
      | _ => none
  | .listen a =>
      if a.listens then (Events.step c.watch a).map fun watch => { c with watch := watch } else none

inductive Moves (c : Channel) : Move → Channel → Prop where
  | truncate {text : Text} {todo : List Text} (hd : c.draft = .closed) (ht : c.todo = text :: todo) :
      Moves c .truncate { c with
        watch := { c.watch with content := [], writers := c.watch.writers + 1 }
        todo := todo
        draft := .truncated text }
  | write {text : Text} (hd : c.draft = .truncated text) :
      Moves c .write { c with
        watch := { c.watch with content := overwrite 0 text c.watch.content }
        draft := .written
        written := c.written ++ [text] }
  | close (hd : c.draft = .written) :
      Moves c .close { c with
        watch := { c.watch with
          writers := c.watch.writers - 1
          closes := c.watch.closes + 1
          queued := c.watch.queued + 1 }
        draft := .closed }
  | poll (hp : c.watch.phase = .poll) (hq : 0 < c.watch.queued) :
      Moves c (.listen .poll) { c with watch := { c.watch with phase := .woken } }
  | readEvents (hp : c.watch.phase = .woken) :
      Moves c (.listen .readEvents) { c with
        watch := { c.watch with phase := .notified, queued := c.watch.queued - MAX_EVENTS } }
  | openStream (hp : c.watch.phase = .notified) :
      Moves c (.listen .openStream) { c with watch := { c.watch with phase := .reading [] } }
  | getline (hp : c.watch.phase = .reading []) :
      Moves c (.listen .getline) { c with
        watch := { c.watch with phase := deliver (firstLine c.watch.content) } }
  | callback {line : Text} (hp : c.watch.phase = .calling line) :
      Moves c (.listen .callback) { c with
        watch := { c.watch with phase := .poll, callbacks := c.watch.callbacks ++ [line] } }

lemma moves_of_step {c c' : Channel} {m : Move} (h : c.step m = some c') : Moves c m c' := by
  cases m with
  | truncate =>
    cases hd : c.draft with
    | closed =>
      cases ht : c.todo with
      | nil => simp [Channel.step, hd, ht] at h
      | cons text todo =>
        obtain rfl : _ = c' := by simpa [Channel.step, hd, ht, step, resize] using h
        exact .truncate hd ht
    | _ => simp [Channel.step, hd] at h
  | write =>
    cases hd : c.draft with
    | truncated text =>
      obtain ⟨_, rfl⟩ : 0 < c.watch.writers ∧ _ = c' := by simpa [Channel.step, hd, step] using h
      exact .write hd
    | _ => simp [Channel.step, hd] at h
  | close =>
    cases hd : c.draft with
    | written =>
      obtain ⟨_, rfl⟩ : 0 < c.watch.writers ∧ _ = c' := by simpa [Channel.step, hd, step] using h
      exact .close hd
    | _ => simp [Channel.step, hd] at h
  | listen a =>
    cases a with
    | poll =>
      obtain ⟨⟨hp, hq⟩, rfl⟩ : (c.watch.phase = .poll ∧ 0 < c.watch.queued) ∧ _ = c' := by
        simpa [Channel.step, Act.listens, step] using h
      exact .poll hp hq
    | readEvents =>
      obtain ⟨hp, rfl⟩ : c.watch.phase = .woken ∧ _ = c' := by simpa [Channel.step, Act.listens, step] using h
      exact .readEvents hp
    | openStream =>
      obtain ⟨hp, rfl⟩ : c.watch.phase = .notified ∧ _ = c' := by simpa [Channel.step, Act.listens, step] using h
      exact .openStream hp
    | getline =>
      obtain ⟨hp, rfl⟩ : c.watch.phase = .reading [] ∧ _ = c' := by simpa [Channel.step, Act.listens, step] using h
      exact .getline hp
    | callback =>
      cases hp : c.watch.phase with
      | calling line =>
        obtain rfl : _ = c' := by simpa [Channel.step, Act.listens, step, hp] using h
        exact .callback hp
      | _ => simp [Channel.step, Act.listens, step, hp] at h
    | _ => simp [Channel.step, Act.listens] at h

lemma follows_channel {c c' : Channel} {m : Move} (hf : Follows c.watch) (h : c.step m = some c') :
    Follows c'.watch := by
  cases m with
  | truncate =>
    cases hd : c.draft with
    | closed =>
      cases ht : c.todo with
      | nil => simp [Channel.step, hd, ht] at h
      | cons text todo =>
        simp only [Channel.step, hd, ht, Option.map_eq_some_iff, Option.bind_eq_some_iff] at h
        obtain ⟨w, ⟨v, hv, hw⟩, rfl⟩ := h
        exact follows_step v _ w (follows_step _ _ v hf hv) hw
    | _ => simp [Channel.step, hd] at h
  | write =>
    cases hd : c.draft with
    | truncated text =>
      simp only [Channel.step, hd, Option.map_eq_some_iff] at h
      obtain ⟨w, hw, rfl⟩ := h
      exact follows_step _ _ w hf hw
    | _ => simp [Channel.step, hd] at h
  | close =>
    cases hd : c.draft with
    | written =>
      simp only [Channel.step, hd, Option.map_eq_some_iff] at h
      obtain ⟨w, hw, rfl⟩ := h
      exact follows_step _ _ w hf hw
    | _ => simp [Channel.step, hd] at h
  | listen a =>
    simp only [Channel.step] at h
    split_ifs at h
    obtain ⟨w, hw, rfl⟩ := Option.map_eq_some_iff.mp h
    exact follows_step _ _ w hf hw

def Draft.pending : Draft → List Text
  | .truncated text => [text]
  | _ => []

def Draft.unclosed : Draft → ℕ
  | .written => 1
  | _ => 0

def Draft.holders : Draft → ℕ
  | .closed => 0
  | _ => 1

def Watch.heard (w : Watch) : List Text :=
  w.callbacks ++ match w.phase with
    | .calling line => [line]
    | _ => []

def Phase.inFlight : Phase → ℕ
  | .notified | .reading _ => 1
  | _ => 0

structure Ordered (texts : List Text) (c : Channel) : Prop where
  split : c.written ++ c.draft.pending ++ c.todo = texts
  writers : c.watch.writers = c.draft.holders
  blank : ∀ text, c.draft = .truncated text → c.watch.content = []
  content : (∀ text, c.draft ≠ .truncated text) → ∀ text ∈ c.written.getLast?, c.watch.content = text
  closes : c.watch.closes + c.draft.unclosed = c.written.length
  counted : c.watch.heard.length + c.watch.phase.inFlight + c.watch.queued ≤ c.watch.closes
  order : ∃ idx : List ℕ, idx.Pairwise (· ≤ ·) ∧ (∀ i ∈ idx, i < c.written.length) ∧
    c.watch.heard.map some = idx.map (fun i => c.written[i]?.map firstLine)

lemma ordered_start (content : Text) (texts : List Text) : Ordered texts (.start content texts) where
  split := rfl
  writers := rfl
  blank _ h := by cases h
  content _ _ h := by cases h
  closes := rfl
  counted := le_rfl
  order := ⟨[], List.Pairwise.nil, by simp, rfl⟩

lemma heard_deliver (w : Watch) (line : Text) :
    { w with phase := deliver line }.heard = w.callbacks ++ if line = [] then [] else [line] := by
  rw [deliver]
  split_ifs <;> rfl

lemma Ordered.mem_texts {texts : List Text} {c : Channel} (h : Ordered texts c) {text : Text}
    (ht : text ∈ c.written) : text ∈ texts := by
  rw [← h.split]
  exact List.mem_append_left _ (List.mem_append_left _ ht)

lemma Ordered.getline {texts : List Text} (ht : ∀ text ∈ texts, firstLine text ≠ []) {c : Channel}
    (h : Ordered texts c) (hp : c.watch.phase = .reading []) :
    firstLine c.watch.content = [] ∨ c.written.getLast? = some c.watch.content ∧
      firstLine c.watch.content ≠ [] := by
  have hcount := h.counted
  have hcloses := h.closes
  rw [hp, Phase.inFlight] at hcount
  cases hd : c.draft with
  | truncated text =>
    left
    rw [h.blank text hd]
    rfl
  | _ =>
    right
    have hne : c.written ≠ [] := by
      intro hn
      rw [hn, List.length_nil] at hcloses
      omega
    obtain ⟨text, hl⟩ : ∃ text, c.written.getLast? = some text := ⟨_, List.getLast?_eq_some_getLast hne⟩
    rw [h.content (by simp [hd]) text hl]
    exact ⟨hl, ht text (h.mem_texts (List.mem_of_getLast? hl))⟩

lemma Ordered.listen {texts : List Text} {c : Channel} (h : Ordered texts c) {w : Watch}
    (hw : w.content = c.watch.content ∧ w.writers = c.watch.writers ∧ w.closes = c.watch.closes)
    (hcount : w.heard.length + w.phase.inFlight + w.queued ≤ c.watch.closes)
    (horder : ∃ idx : List ℕ, idx.Pairwise (· ≤ ·) ∧ (∀ i ∈ idx, i < c.written.length) ∧
      w.heard.map some = idx.map (fun i => c.written[i]?.map firstLine)) :
    Ordered texts { c with watch := w } where
  split := h.split
  writers := hw.2.1.trans h.writers
  blank text hd := hw.1.trans (h.blank text hd)
  content hn text hl := hw.1.trans (h.content hn text hl)
  closes := hw.2.2.symm ▸ h.closes
  counted := hw.2.2.symm ▸ hcount
  order := horder

lemma Ordered.unheard {texts : List Text} {c : Channel} (h : Ordered texts c) {w : Watch}
    (hw : w.content = c.watch.content ∧ w.writers = c.watch.writers ∧ w.closes = c.watch.closes)
    (hh : w.heard = c.watch.heard)
    (hq : w.phase.inFlight + w.queued ≤ c.watch.phase.inFlight + c.watch.queued) :
    Ordered texts { c with watch := w } := by
  have hcount := h.counted
  refine h.listen hw ?_ (hh ▸ h.order)
  rw [hh]
  omega

lemma ordered_getline {texts : List Text} (ht : ∀ text ∈ texts, firstLine text ≠ []) {c : Channel}
    (h : Ordered texts c) (hp : c.watch.phase = .reading []) :
    Ordered texts { c with watch := { c.watch with phase := deliver (firstLine c.watch.content) } } := by
  have hcount := h.counted
  have hr : c.watch.heard = c.watch.callbacks := by simp [Watch.heard, hp]
  rw [hp, hr] at hcount
  simp only [Phase.inFlight] at hcount
  obtain ⟨idx, hpw, hb, ho⟩ := h.order
  rw [hr] at ho
  have hh := heard_deliver c.watch (firstLine c.watch.content)
  rcases h.getline ht hp with hl | ⟨hlast, hl⟩
  · rw [if_pos hl, List.append_nil] at hh
    refine h.listen ⟨rfl, rfl, rfl⟩ ?_ ⟨idx, hpw, hb, hh ▸ ho⟩
    rw [hh, deliver, if_pos hl]
    simp only [Phase.inFlight]
    omega
  · have hpos : 0 < c.written.length := List.length_pos_of_mem (List.mem_of_getLast? hlast)
    rw [if_neg hl] at hh
    refine h.listen ⟨rfl, rfl, rfl⟩ ?_ ⟨idx ++ [c.written.length - 1], ?_, ?_, ?_⟩
    · rw [hh, deliver, if_neg hl, List.length_append, List.length_singleton]
      simp only [Phase.inFlight]
      omega
    · refine List.pairwise_append.mpr ⟨hpw, List.pairwise_singleton _ _, ?_⟩
      intro i hi j hj
      have hlt := hb i hi
      rw [List.mem_singleton] at hj
      omega
    · intro i hi
      rcases List.mem_append.mp hi with hi | hi
      · exact hb i hi
      · rw [List.mem_singleton] at hi
        omega
    · rw [hh, List.map_append, List.map_append, ho]
      rw [List.getLast?_eq_getElem?] at hlast
      simp [hlast]

lemma ordered_step {texts : List Text} (ht : ∀ text ∈ texts, firstLine text ≠ []) {c c' : Channel} {m : Move}
    (hf : Follows c.watch) (h : Ordered texts c) (hm : Moves c m c') : Ordered texts c' := by
  cases hm with
  | @truncate text todo hd hx =>
    refine { h with split := ?_, writers := ?_, blank := ?_, content := ?_, closes := ?_ }
    · simpa [hd, hx, Draft.pending] using h.split
    · simp [h.writers, hd, Draft.holders]
    · exact fun _ _ => rfl
    · exact fun hn => absurd rfl (hn text)
    · simpa [hd, Draft.unclosed] using h.closes
  | @write text hd =>
    refine { h with split := ?_, writers := ?_, blank := ?_, content := ?_, closes := ?_, order := ?_ }
    · simpa [hd, Draft.pending] using h.split
    · simp [h.writers, hd, Draft.holders]
    · intro _ hc
      cases hc
    · intro _ t hl
      obtain rfl : text = t := by simpa using hl
      simp [overwrite, resize, h.blank text hd]
    · simpa [hd, Draft.unclosed] using h.closes
    · obtain ⟨idx, hp, hb, ho⟩ := h.order
      refine ⟨idx, hp, fun i hi => (hb i hi).trans (by simp), ho.trans ?_⟩
      apply List.map_congr_left
      intro i hi
      rw [List.getElem?_append_left (hb i hi)]
  | close hd =>
    refine { h with split := ?_, writers := ?_, blank := ?_, content := ?_, closes := ?_, counted := ?_ }
    · simpa [hd, Draft.pending] using h.split
    · simp [h.writers, hd, Draft.holders]
    · intro _ hc
      cases hc
    · exact fun _ => h.content (by simp [hd])
    · simpa [hd, Draft.unclosed] using h.closes
    · exact Nat.succ_le_succ h.counted
  | poll hp hq => exact h.unheard ⟨rfl, rfl, rfl⟩ (by simp [Watch.heard, hp]) (by simp [Phase.inFlight])
  | readEvents hp =>
    refine h.unheard ⟨rfl, rfl, rfl⟩ (by simp [Watch.heard, hp]) ?_
    have hw := hf.woken hp
    simp only [Phase.inFlight, MAX_EVENTS, hp]
    omega
  | openStream hp => exact h.unheard ⟨rfl, rfl, rfl⟩ (by simp [Watch.heard, hp]) (by simp [Phase.inFlight, hp])
  | getline hp => exact ordered_getline ht h hp
  | callback hp => exact h.unheard ⟨rfl, rfl, rfl⟩ (by simp [Watch.heard, hp]) (by simp [Phase.inFlight])

/-- The writer begins a rewrite only when the listener has taken notice of all earlier ones. -/
def Patient (c : Channel) (m : Move) : Prop := m = .truncate → c.watch.phase = .poll ∧ c.watch.queued = 0

instance (c : Channel) (m : Move) : Decidable (Patient c m) := inferInstanceAs (Decidable (_ → _))

def Behind (c : Channel) : Prop :=
  ∃ before, c.written = before ++ [c.watch.content] ∧ c.watch.callbacks = before.map firstLine

def UpToDate (c : Channel) : Prop :=
  c.watch.phase = .poll ∧ c.watch.queued = 0 ∧ c.watch.callbacks = c.written.map firstLine

inductive Exact (c : Channel) : Prop where
  | idle (hd : c.draft = .closed) (hu : UpToDate c)
  | truncated {text : Text} (hd : c.draft = .truncated text) (hu : UpToDate c)
  | written (hd : c.draft = .written) (hp : c.watch.phase = .poll) (hq : c.watch.queued = 0) (hb : Behind c)
  | queued (hd : c.draft = .closed) (hp : c.watch.phase = .poll ∨ c.watch.phase = .woken)
      (hq : c.watch.queued = 1) (hb : Behind c)
  | noticed (hd : c.draft = .closed) (hp : c.watch.phase = .notified ∨ c.watch.phase = .reading [] ∨
      c.watch.phase = .calling (firstLine c.watch.content)) (hq : c.watch.queued = 0) (hb : Behind c)

lemma exact_step {texts : List Text} (ht : ∀ text ∈ texts, firstLine text ≠ []) {c c' : Channel} {m : Move}
    (ho : Ordered texts c) (hpat : Patient c m) (h : Exact c) (hm : Moves c m c') : Exact c' := by
  cases hm with
  | truncate hd hx =>
    obtain ⟨hp, hq⟩ := hpat rfl
    cases h with
    | idle _ hu => exact .truncated rfl hu
    | truncated hd' => simp [hd] at hd'
    | written hd' => simp [hd] at hd'
    | queued _ _ hq' => simp [hq] at hq'
    | noticed _ hp' => simp [hp] at hp'
  | @write text hd =>
    cases h with
    | truncated _ hu =>
      refine .written rfl hu.1 hu.2.1 ⟨c.written, ?_, hu.2.2⟩
      simp [overwrite, resize, ho.blank text hd]
    | idle hd' => simp [hd] at hd'
    | written hd' => simp [hd] at hd'
    | queued hd' => simp [hd] at hd'
    | noticed hd' => simp [hd] at hd'
  | close hd =>
    cases h with
    | written _ hp hq hb => exact .queued rfl (.inl hp) (by simp [hq]) hb
    | idle hd' => simp [hd] at hd'
    | truncated hd' => simp [hd] at hd'
    | queued hd' => simp [hd] at hd'
    | noticed hd' => simp [hd] at hd'
  | poll hp hq =>
    cases h with
    | queued hd _ hq' hb => exact .queued hd (.inr rfl) hq' hb
    | idle _ hu => simp [hu.2.1] at hq
    | truncated _ hu => simp [hu.2.1] at hq
    | written _ _ hq' => simp [hq'] at hq
    | noticed _ _ hq' => simp [hq'] at hq
  | readEvents hp =>
    cases h with
    | queued hd _ hq hb =>
      have hz : c.watch.queued - MAX_EVENTS = 0 := by
        rw [hq]
        decide
      obtain ⟨before, hw, hc⟩ := hb
      exact .noticed hd (.inl rfl) hz ⟨before, hw, hc⟩
    | idle _ hu => simp [UpToDate, hp] at hu
    | truncated _ hu => simp [UpToDate, hp] at hu
    | written _ hp' => simp [hp] at hp'
    | noticed _ hp' => simp [hp] at hp'
  | openStream hp =>
    cases h with
    | noticed hd _ hq hb => exact .noticed hd (.inr (.inl rfl)) hq hb
    | idle _ hu => simp [UpToDate, hp] at hu
    | truncated _ hu => simp [UpToDate, hp] at hu
    | written _ hp' => simp [hp] at hp'
    | queued _ hp' => simp [hp] at hp'
  | getline hp =>
    cases h with
    | noticed hd _ hq hb =>
      obtain ⟨before, hw, hc⟩ := hb
      have hl : firstLine c.watch.content ≠ [] := ht _ (ho.mem_texts (by simp [hw]))
      refine .noticed hd (.inr (.inr ?_)) hq ⟨before, hw, hc⟩
      simp [deliver, hl]
    | idle _ hu => simp [UpToDate, hp] at hu
    | truncated _ hu => simp [UpToDate, hp] at hu
    | written _ hp' => simp [hp] at hp'
    | queued _ hp' => simp [hp] at hp'
  | @callback line hp =>
    cases h with
    | noticed hd hp' hq hb =>
      obtain ⟨before, hw, hc⟩ := hb
      obtain rfl : line = firstLine c.watch.content := by simpa [hp] using hp'
      exact .idle hd ⟨rfl, hq, by simp [hw, hc]⟩
    | idle _ hu => simp [UpToDate, hp] at hu
    | truncated _ hu => simp [UpToDate, hp] at hu
    | written _ hp' => simp [hp] at hp'
    | queued _ hp' => simp [hp] at hp'

lemma ordered_runs {content : Text} {texts : List Text} (ht : ∀ text ∈ texts, firstLine text ≠ [])
    {moves : List Move} {c : Channel} (hr : runs Channel.step (.start content texts) moves = some c) :
    Follows c.watch ∧ Ordered texts c := by
  apply invariant_runs (I := fun c => Follows c.watch ∧ Ordered texts c) _ _ hr
  · exact fun c m c' h hs => ⟨follows_channel h.1 hs, ordered_step ht h.1 h.2 (moves_of_step hs)⟩
  · exact ⟨follows_start content 0, ordered_start content texts⟩

lemma exact_runs {content : Text} {texts : List Text} (ht : ∀ text ∈ texts, firstLine text ≠ [])
    {moves : List Move} {c : Channel} (hpat : Along Channel.step Patient (.start content texts) moves)
    (hr : runs Channel.step (.start content texts) moves = some c) : Exact c := by
  refine (invariant_along (C := Patient) (I := fun c => Follows c.watch ∧ Ordered texts c ∧ Exact c) ?_ ?_
    hpat hr).2.2
  · intro c m c' h hp hs
    have hm := moves_of_step hs
    exact ⟨follows_channel h.1 hs, ordered_step ht h.1 h.2.1 hm, exact_step ht h.2.1 hp h.2.2 hm⟩
  · exact ⟨follows_start content 0, ordered_start content texts, .idle rfl ⟨rfl, rfl, rfl⟩⟩

theorem channel_keeps_order (content : Text) (texts : List Text) (ht : ∀ text ∈ texts, firstLine text ≠ [])
    (moves : List Move) (c : Channel) (hrun : runs Channel.step (.start content texts) moves = some c)
    (htodo : c.todo = []) (hdraft : c.draft = .closed) (hpoll : c.watch.phase = .poll)
    (hqueued : c.watch.queued = 0) :
    (∃ idx : List ℕ, idx.Pairwise (· ≤ ·) ∧ idx.length ≤ texts.length ∧
      c.watch.callbacks.map some = idx.map (fun i => (texts.map firstLine)[i]?)) ∧
    c.watch.callbacks.getLast? = (texts.map firstLine).getLast? ∧
    (Along Channel.step Patient (.start content texts) moves → c.watch.callbacks = texts.map firstLine) := by
  obtain ⟨hf, ho⟩ := ordered_runs ht hrun
  have hw : c.written = texts := by simpa [htodo, hdraft, Draft.pending] using ho.split
  have hh : c.watch.heard = c.watch.callbacks := by simp [Watch.heard, hpoll]
  have hcloses : c.watch.closes = texts.length := by simpa [hdraft, Draft.unclosed, hw] using ho.closes
  have hcount := ho.counted
  rw [hh, hcloses] at hcount
  refine ⟨?_, ?_, ?_⟩
  · obtain ⟨idx, hp, hb, hi⟩ := ho.order
    rw [hh, hw] at hi
    have hlen : c.watch.callbacks.length = idx.length := by simpa using congrArg List.length hi
    refine ⟨idx, hp, by omega, hi.trans ?_⟩
    simp
  · cases hl : texts.getLast? with
    | none =>
      obtain rfl : texts = [] := List.getLast?_eq_none_iff.mp hl
      have hn : c.watch.callbacks = [] := by
        apply List.eq_nil_of_length_eq_zero
        rw [List.length_nil] at hcount
        omega
      rw [hn]
      rfl
    | some text =>
      have hm := List.mem_of_getLast? hl
      have hpos : 0 < c.watch.closes := hcloses ▸ List.length_pos_of_mem hm
      have hc : c.watch.content = text := ho.content (by simp [hdraft]) text (hw ▸ hl)
      have hcur := hf.current hpos (by simp [ho.writers, hdraft, Draft.holders]) hqueued
      rw [hpoll, hc] at hcur
      rw [hcur (ht text hm), List.getLast?_map, hl]
      rfl
  · intro hpat
    rw [← hw]
    cases exact_runs ht hpat hrun with
    | idle _ hu => exact hu.2.2
    | truncated hd => simp [hdraft] at hd
    | written hd => simp [hdraft] at hd
    | queued _ _ hq => simp [hqueued] at hq
    | noticed _ hp => simp [hpoll] at hp

def oneRead : List Move :=
  [.listen .poll, .listen .readEvents, .listen .openStream, .listen .getline, .listen .callback]

def oneRewrite : List Move := [.truncate, .write, .close]

theorem channel_loses_command :
    ¬ ∀ (texts : List Text) (moves : List Move) (c : Channel), (∀ text ∈ texts, firstLine text ≠ []) →
      runs Channel.step (.start [] texts) moves = some c → c.todo = [] → c.draft = .closed →
      c.watch.phase = .poll → c.watch.queued = 0 → c.watch.callbacks = texts.map firstLine := by
  intro h
  have hc := h [['a'], ['b']] (oneRewrite ++ oneRewrite ++ oneRead)
    ⟨⟨['b'], 0, 2, 0, .poll, [['b']]⟩, [], .closed, [['a'], ['b']]⟩ (by decide) (by decide +kernel) rfl rfl rfl rfl
  exact absurd hc (by decide)

theorem channel_keeps_order_skipping :
    ∃ idx : List ℕ, idx.Pairwise (· ≤ ·) ∧ idx.length ≤ 2 ∧
      ([['b']] : List Text).map some = idx.map (fun i => (([['a'], ['b']] : List Text).map firstLine)[i]?) :=
  (channel_keeps_order [] [['a'], ['b']] (by decide) (oneRewrite ++ oneRewrite ++ oneRead)
    ⟨⟨['b'], 0, 2, 0, .poll, [['b']]⟩, [], .closed, [['a'], ['b']]⟩ (by decide +kernel) rfl rfl rfl rfl).1

end PacketFilter.Events
