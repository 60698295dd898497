import StyledText.Proofs.Stream.Run
import StyledText.Proofs.Text.Boundary

/-!
# Commands that can be resolved

Replay goes through the commands with the current source in hand.  What a command needs to be
resolved is said here without that state, from the registries, the present texts and the commands
before it: an index that is registered, or two ends that are places of the text behind those
commands.  So replay delivers **the longest prefix of commands that can be resolved**, each as one
event, and tells why the command behind that prefix cannot be.

* `Stream.Resolvable` and `Stream.Tells` — when a command can be resolved, and its event then.
* `Stream.resolved_resolve` — one command.
* `Stream.Delivers`, `Stream.delivers_replayFrom` — commands in a row.
* `Stream.replayInto_eq` — a sink is handed the events one by one as they are resolved.
* `Stream.Reached.replay_longest_prefix` — the replay of a stream that a run leaves.
-/

namespace StyledText

variable {α : Type}

/-! ### What commands refer to -/

/-- What a command names by an index. -/
def Command.named? : Command → Option (Reference × UInt32)
  | .icon run => some (.resource .icon, run.icon)
  | .pushStyle index => some (.resource .style, index)
  | .pushFont index => some (.resource .font, index)
  | .pushGlyphShader index => some (.resource .glyphShader, index)
  | .changeSourceString index | .changeSourceStringBuilder index => some (.source, index)
  | _ => none

/-- The index of the source that a command makes the current one. -/
def Command.sourceIndex? (c : Command) : Option UInt32 :=
  match c.named? with
  | some (.source, index) => some index
  | _ => none

/-- Why a command is refused, if it can be. -/
def Command.refusal? : Command → Option StreamError
  | .text run => some (.invalidTextRun run.offset run.length)
  | c => c.named?.map fun (reference, index) => .unknownResource reference index

/-- The run ends below the bound of offsets, and characters begin or the text ends at both ends. -/
def TextRun.Fits (run : TextRun) (text : String) : Prop :=
  run.offset.toNat + run.length.toNat < UInt32.size ∧
    String.Pos.Raw.IsValid text ⟨run.offset.toNat⟩ ∧
    String.Pos.Raw.IsValid text ⟨run.offset.toNat + run.length.toNat⟩

/-- How a replay ended. -/
def Replay.result (replay : Replay α) : Except StreamError Unit :=
  match replay.fault with
  | none => .ok ()
  | some e => .error e

namespace Stream

/-- How many things are registered that a command can name. -/
def registered (s : Stream α) : Reference → Nat
  | .resource kind => (s.resources.of kind).size
  | .source => s.sources.size

/-- The text that a run behind the given commands is cut from: the present text of the source that
the last change among them names, and without one the text that the stream was given. -/
def textBehind? (s : Stream α) (store : SourceStore) (before : List Command) : Option String :=
  match (before.filterMap Command.sourceIndex?).getLast? with
  | some index => (s.sources.get? index.toNat).map store.text
  | none => s.sourceText.map (·.text)

/-- The command can be resolved behind the given commands. -/
def Resolvable (s : Stream α) (store : SourceStore) (before : List Command) : Command → Prop
  | .text run => ∃ text, s.textBehind? store before = some text ∧ run.Fits text
  | c => ∀ reference index, c.named? = some (reference, index) →
      index.toNat < s.registered reference

/-- The event tells what the command stands for behind the given commands. -/
inductive Tells (s : Stream α) (store : SourceStore) (before : List Command) :
    Command → Event α → Prop where
  | block (info : BlockInfo) : Tells s store before (.blockInfo info) (.block info)
  | line (info : LineInfo) : Tells s store before (.lineInfo info) (.line info)
  | text {run : TextRun} {text content : String} (behind : s.textBehind? store before = some text)
      (bytes : content.toByteArray = text.toByteArray.extract run.offset.toNat
        (run.offset.toNat + run.length.toNat)) :
      Tells s store before (.text run) (.text run content)
  | icon {run : IconRun} {value : α}
      (registered : (s.resources.of .icon).get? run.icon.toNat = some value) :
      Tells s store before (.icon run) (.icon run value)
  | hyphen (bounds : Rect) : Tells s store before (.hyphen bounds) (.hyphen bounds)
  | toggleBold : Tells s store before .toggleBold .toggleBold
  | toggleItalic : Tells s store before .toggleItalic .toggleItalic
  | pushStyle {index : UInt32} {value : α}
      (registered : (s.resources.of .style).get? index.toNat = some value) :
      Tells s store before (.pushStyle index) (.pushStyle value)
  | pushFont {index : UInt32} {value : α}
      (registered : (s.resources.of .font).get? index.toNat = some value) :
      Tells s store before (.pushFont index) (.pushFont value)
  | pushColor (color : Color) : Tells s store before (.pushColor color) (.pushColor color)
  | pushGlyphShader {index : UInt32} {value : α}
      (registered : (s.resources.of .glyphShader).get? index.toNat = some value) :
      Tells s store before (.pushGlyphShader index) (.pushGlyphShader value)
  | popStyle : Tells s store before .popStyle .popStyle
  | popFont : Tells s store before .popFont .popFont
  | popColor : Tells s store before .popColor .popColor
  | popGlyphShader : Tells s store before .popGlyphShader .popGlyphShader
  | changeSource {c : Command} {index : UInt32} {source : Source}
      (named : c.named? = some (.source, index))
      (registered : s.sources.get? index.toNat = some source) :
      Tells s store before c (.sourceChanged source)

/-! ### One command -/

section

variable {s : Stream α} {store : SourceStore} {before : List Command} {current : Option Source}
  {c : Command}

theorem textBehind?_append_of_none (hc : c.sourceIndex? = none) :
    s.textBehind? store (before ++ [c]) = s.textBehind? store before := by
  have hnone : [c].filterMap Command.sourceIndex? = [] := List.filterMap_cons_none hc
  rw [textBehind?, List.filterMap_append, hnone, List.append_nil, textBehind?]

theorem textBehind?_append_of_some {index : UInt32} (hc : c.sourceIndex? = some index) :
    s.textBehind? store (before ++ [c]) = (s.sources.get? index.toNat).map store.text := by
  have hsome : [c].filterMap Command.sourceIndex? = [index] := List.filterMap_cons_some hc
  rw [textBehind?, List.filterMap_append, hsome, List.getLast?_concat]

/-- Resolving came out right: the event tells what the command stands for, and the source that is
then the current one has the text behind the command; or the command cannot be resolved, and the
fault says why. -/
def Resolved (s : Stream α) (store : SourceStore) (before : List Command)
    (current : Option Source) (c : Command) : Except StreamError (Event α) → Prop
  | .ok event => s.Resolvable store before c ∧ s.Tells store before c event ∧
      s.currentText? store (event.source?.or current) = s.textBehind? store (before ++ [c])
  | .error e => ¬s.Resolvable store before c ∧ c.refusal? = some e

/-- A run that is cut is one that fits the text, and the characters are its bytes. -/
theorem runText?_eq_some_iff {run : TextRun} {content : String} :
    s.runText? store current run = some content ↔
      ∃ text, s.currentText? store current = some text ∧ run.Fits text ∧
        content.toByteArray = text.toByteArray.extract run.offset.toNat
          (run.offset.toNat + run.length.toNat) := by
  rw [runText?, TextRun.range?]
  by_cases hsize : run.offset.toNat + run.length.toNat < UInt32.size
  · rw [if_pos hsize]
    cases s.currentText? store current with
    | none => simp
    | some text =>
      simp [Text.cut?_eq_some_iff_bytes, TextRun.Fits, hsize, and_assoc]
  · rw [if_neg hsize]
    simp [TextRun.Fits, hsize]

/-- A run is cut from the text behind the commands, and refused only when it does not fit. -/
theorem resolved_text (hcurrent : s.currentText? store current = s.textBehind? store before)
    (run : TextRun) : s.Resolved store before current (.text run)
      (s.resolve store current (.text run)) := by
  rw [resolve]
  cases hcut : s.runText? store current run with
  | some content =>
    obtain ⟨text, htext, hfits, hbytes⟩ := runText?_eq_some_iff.1 hcut
    rw [hcurrent] at htext
    exact ⟨⟨text, htext, hfits⟩, .text htext hbytes,
      hcurrent.trans (textBehind?_append_of_none rfl).symm⟩
  | none =>
    refine ⟨?_, rfl⟩
    intro hresolvable
    obtain ⟨text, htext, hfits⟩ := hresolvable
    obtain ⟨content, hcontent⟩ := Text.exists_cut?_iff.2
      ⟨Nat.le_add_right _ _, hfits.2.1, hfits.2.2⟩
    rw [← hcurrent] at htext
    have hbytes := (Text.cut?_eq_some_iff_bytes.1 hcontent).2.2.2
    rw [runText?_eq_some_iff.2 ⟨text, htext, hfits, hbytes⟩] at hcut
    cases hcut

theorem resolvable_iff_of_named {reference : Reference} {index : UInt32}
    (hc : c.named? = some (reference, index)) :
    s.Resolvable store before c ↔ index.toNat < s.registered reference := by
  have hall : (∀ r i, c.named? = some (r, i) → i.toNat < s.registered r) ↔
      index.toNat < s.registered reference := by
    rw [hc]
    constructor
    · intro h
      exact h reference index rfl
    · intro h r i hri
      cases hri
      exact h
  cases c with
  | text run => cases hc
  | _ => exact hall

theorem refusal?_of_named {reference : Reference} {index : UInt32}
    (hc : c.named? = some (reference, index)) :
    c.refusal? = some (.unknownResource reference index) := by
  have hmap : (c.named?.map fun (reference, index) => StreamError.unknownResource reference index) =
      some (.unknownResource reference index) := by
    rw [hc]
    rfl
  cases c with
  | text run => cases hc
  | _ => exact hmap

/-- A resource is refused only when its index is not registered. -/
theorem resolved_lookUp (hcurrent : s.currentText? store current = s.textBehind? store before)
    {kind : ResourceKind} {index : UInt32} {event : α → Event α}
    (hc : c.named? = some (.resource kind, index))
    (htells : ∀ value, (s.resources.of kind).get? index.toNat = some value →
      s.Tells store before c (event value))
    (hevent : ∀ value, (event value).source? = none) :
    s.Resolved store before current c ((s.lookUp kind index).map event) := by
  have hresolvable : s.Resolvable store before c ↔ index.toNat < (s.resources.of kind).size :=
    resolvable_iff_of_named hc
  have hsource : c.sourceIndex? = none := by rw [Command.sourceIndex?, hc]
  rw [lookUp]
  cases hvalue : (s.resources.of kind).get? index.toNat with
  | none =>
    have hle := Registry.get?_eq_none_iff.1 hvalue
    exact ⟨mt hresolvable.1 (Nat.not_lt.2 hle), refusal?_of_named hc⟩
  | some value =>
    have hlt : index.toNat < (s.resources.of kind).size := by
      apply Nat.lt_of_not_le
      intro hle
      rw [Registry.get?_eq_none_iff.2 hle] at hvalue
      cases hvalue
    refine ⟨hresolvable.2 hlt, htells value hvalue, ?_⟩
    rw [textBehind?_append_of_none hsource, hevent value]
    exact hcurrent

/-- A source that is looked up becomes the one that runs behind the command are cut from. -/
theorem resolved_lookUpSource {index : UInt32} (hc : c.named? = some (.source, index)) :
    s.Resolved store before current c ((s.lookUpSource index).map .sourceChanged) := by
  have hresolvable : s.Resolvable store before c ↔ index.toNat < s.sources.size :=
    resolvable_iff_of_named hc
  have hsource : c.sourceIndex? = some index := by rw [Command.sourceIndex?, hc]
  rw [lookUpSource]
  cases hvalue : s.sources.get? index.toNat with
  | none =>
    have hle := List.getElem?_eq_none_iff.1 hvalue
    exact ⟨mt hresolvable.1 (Nat.not_lt.2 hle), refusal?_of_named hc⟩
  | some source =>
    have hlt := (List.getElem?_eq_some_iff.1 hvalue).1
    refine ⟨hresolvable.2 hlt, .changeSource hc hvalue, ?_⟩
    rw [textBehind?_append_of_some hsource, hvalue]
    rfl

/-- A command that refers to nothing is told as it is. -/
theorem resolved_plain (hcurrent : s.currentText? store current = s.textBehind? store before)
    {event : Event α} (hc : c.named? = none) (hresolvable : s.Resolvable store before c)
    (htells : s.Tells store before c event) (hevent : event.source? = none) :
    s.Resolved store before current c (.ok event) := by
  have hsource : c.sourceIndex? = none := by rw [Command.sourceIndex?, hc]
  refine ⟨hresolvable, htells, ?_⟩
  rw [textBehind?_append_of_none hsource, hevent]
  exact hcurrent

/-- **A command is resolved exactly when it can be**, given the source of the text behind the
commands before it. -/
theorem resolved_resolve (hcurrent : s.currentText? store current = s.textBehind? store before)
    (c : Command) : s.Resolved store before current c (s.resolve store current c) := by
  have hplain {c : Command} (hc : c.named? = none) :
      ∀ reference index, c.named? = some (reference, index) →
        index.toNat < s.registered reference := by
    intro reference index hnamed
    rw [hc] at hnamed
    cases hnamed
  cases c with
  | text run => exact resolved_text hcurrent run
  | icon run => exact resolved_lookUp hcurrent rfl (fun _ h => .icon h) fun _ => rfl
  | pushStyle index => exact resolved_lookUp hcurrent rfl (fun _ h => .pushStyle h) fun _ => rfl
  | pushFont index => exact resolved_lookUp hcurrent rfl (fun _ h => .pushFont h) fun _ => rfl
  | pushGlyphShader index =>
    exact resolved_lookUp hcurrent rfl (fun _ h => .pushGlyphShader h) fun _ => rfl
  | changeSourceString index => exact resolved_lookUpSource rfl
  | changeSourceStringBuilder index => exact resolved_lookUpSource rfl
  | blockInfo info => exact resolved_plain hcurrent rfl (hplain rfl) (.block info) rfl
  | lineInfo info => exact resolved_plain hcurrent rfl (hplain rfl) (.line info) rfl
  | hyphen bounds => exact resolved_plain hcurrent rfl (hplain rfl) (.hyphen bounds) rfl
  | toggleBold => exact resolved_plain hcurrent rfl (hplain rfl) .toggleBold rfl
  | toggleItalic => exact resolved_plain hcurrent rfl (hplain rfl) .toggleItalic rfl
  | pushColor color => exact resolved_plain hcurrent rfl (hplain rfl) (.pushColor color) rfl
  | popStyle => exact resolved_plain hcurrent rfl (hplain rfl) .popStyle rfl
  | popFont => exact resolved_plain hcurrent rfl (hplain rfl) .popFont rfl
  | popColor => exact resolved_plain hcurrent rfl (hplain rfl) .popColor rfl
  | popGlyphShader => exact resolved_plain hcurrent rfl (hplain rfl) .popGlyphShader rfl

end

/-! ### Commands in a row -/

/-- The replay delivers the commands one by one, each behind those before it, up to the end or to
the first one that cannot be resolved. -/
inductive Delivers (s : Stream α) (store : SourceStore) :
    List Command → List Command → Replay α → Prop where
  | finish (before : List Command) : Delivers s store before [] {}
  | refuse {before rest : List Command} {c : Command} {e : StreamError}
      (unresolvable : ¬s.Resolvable store before c) (refusal : c.refusal? = some e) :
      Delivers s store before (c :: rest) { fault := some e }
  | deliver {before rest : List Command} {c : Command} {event : Event α} {replay : Replay α}
      (resolvable : s.Resolvable store before c) (tells : s.Tells store before c event)
      (next : Delivers s store (before ++ [c]) rest replay) :
      Delivers s store before (c :: rest) (replay.cons event)

/-- Replaying delivers the commands, from any place on at which the current source is the right
one. -/
theorem delivers_replayFrom {s : Stream α} {store : SourceStore} {before : List Command}
    {current : Option Source}
    (hcurrent : s.currentText? store current = s.textBehind? store before) (cs : List Command) :
    s.Delivers store before cs (s.replayFrom store current (cs.map .ok)) := by
  -- the current source keeps pace with the commands passed
  induction cs generalizing before current with
  | nil => exact .finish before
  | cons c cs ih =>
    have hc := resolved_resolve hcurrent c
    rw [List.map_cons, replayFrom]
    cases hresolve : s.resolve store current c with
    | error e =>
      rw [hresolve] at hc
      exact .refuse hc.1 hc.2
    | ok event =>
      rw [hresolve] at hc
      obtain ⟨hresolvable, htells, hnext⟩ := hc
      exact .deliver hresolvable htells (ih hnext)

/-- A replay delivers the commands of the stream. -/
theorem Represents.delivers {s : Stream α} {cs : List Command} (h : s.Represents cs)
    (store : SourceStore) : s.Delivers store [] cs (s.replay store) := by
  rw [replay, h.commands_eq]
  exact delivers_replayFrom rfl cs

namespace Delivers

variable {s : Stream α} {store : SourceStore} {before cs : List Command} {replay : Replay α}

theorem length_le (h : s.Delivers store before cs replay) : replay.events.length ≤ cs.length := by
  induction h with
  | finish => exact Nat.le_refl 0
  | refuse => exact Nat.zero_le _
  | deliver _ _ _ ih => exact Nat.succ_le_succ ih

/-- The commands that were delivered could be resolved, and their events tell what they stand
for. -/
theorem tells (h : s.Delivers store before cs replay) {i : Nat} {event : Event α}
    (hi : replay.events[i]? = some event) :
    ∃ c, cs[i]? = some c ∧ s.Resolvable store (before ++ cs.take i) c ∧
      s.Tells store (before ++ cs.take i) c event := by
  induction h generalizing i with
  | finish => cases hi
  | refuse => cases hi
  | @deliver before rest c event' replay hresolvable htells _ ih =>
    cases i with
    | zero =>
      cases hi
      refine ⟨c, rfl, ?_⟩
      rw [List.take_zero, List.append_nil]
      exact ⟨hresolvable, htells⟩
    | succ i =>
      have hrest := ih (i := i) hi
      rw [List.append_assoc] at hrest
      exact hrest

/-- The command behind those delivered cannot be resolved, and the fault is its refusal.  If there
is none, there is no fault. -/
theorem refused (h : s.Delivers store before cs replay) :
    replay.fault = cs[replay.events.length]?.bind Command.refusal? ∧
      (replay.fault = none ↔ replay.events.length = cs.length) ∧
      ∀ c, cs[replay.events.length]? = some c →
        ¬s.Resolvable store (before ++ cs.take replay.events.length) c := by
  induction h with
  | finish before => exact ⟨rfl, ⟨fun _ => rfl, fun _ => rfl⟩, fun _ hc => nomatch hc⟩
  | refuse hunresolvable hrefusal =>
    have hend {n : Nat} {e : StreamError} : some e = none ↔ 0 = n + 1 :=
      ⟨(nomatch ·), (nomatch ·)⟩
    refine ⟨hrefusal.symm, hend, ?_⟩
    intro c hc
    cases hc
    show ¬s.Resolvable store (_ ++ []) _
    rw [List.append_nil]
    exact hunresolvable
  | @deliver before rest c event replay _ _ _ ih =>
    obtain ⟨hfault, hend, hlast⟩ := ih
    refine ⟨hfault, hend.trans Nat.succ_inj.symm, ?_⟩
    intro d hd
    have hrest := hlast d hd
    rw [List.append_assoc] at hrest
    exact hrest

end Delivers

/-! ### Sinks -/

/-- Goes through commands with a source or none as the current one, and hands each event to a sink
as soon as the command is resolved. -/
def sendFrom {σ : Type} (s : Stream α) (store : SourceStore) (sink : σ → Event α → σ) :
    Option Source → List (Except StreamError Command) → σ → Except StreamError Unit × σ
  | _, [], state => (.ok (), state)
  | _, .error e :: _, state => (.error e, state)
  | current, .ok c :: commands, state =>
    match s.resolve store current c with
    | .error e => (.error e, state)
    | .ok event => s.sendFrom store sink (event.source?.or current) commands (sink state event)

/-- Replays all commands of the stream into a sink: how it ended, and what has become of the
sink. -/
def replayInto {σ : Type} (s : Stream α) (store : SourceStore) (sink : σ → Event α → σ)
    (state : σ) : Except StreamError Unit × σ :=
  s.sendFrom store sink none s.commands state

theorem sendFrom_eq {σ : Type} (s : Stream α) (store : SourceStore) (sink : σ → Event α → σ)
    (current : Option Source) (commands : List (Except StreamError Command)) (state : σ) :
    s.sendFrom store sink current commands state =
      ((s.replayFrom store current commands).result,
        (s.replayFrom store current commands).events.foldl sink state) := by
  induction commands generalizing current state with
  | nil => rfl
  | cons command commands ih =>
    cases command with
    | error e => rfl
    | ok c =>
      rw [sendFrom, replayFrom]
      cases s.resolve store current c with
      | error e => rfl
      | ok event => exact ih (event.source?.or current) (sink state event)

/-- **A sink is handed the events of the replay, in order and each once**, also when the replay ends
with a fault. -/
theorem replayInto_eq {σ : Type} (s : Stream α) (store : SourceStore) (sink : σ → Event α → σ)
    (state : σ) : s.replayInto store sink state =
      ((s.replay store).result, (s.replay store).events.foldl sink state) :=
  s.sendFrom_eq store sink none s.commands state

/-! ### Streams that runs leave -/

/-- The first `n` commands can be resolved, each behind those before it. -/
def ResolvableUpTo (s : Stream α) (store : SourceStore) (cs : List Command) (n : Nat) : Prop :=
  n ≤ cs.length ∧ ∀ i c, i < n → cs[i]? = some c → s.Resolvable store (cs.take i) c

/-- **Replay delivers the longest prefix of commands that can be resolved.**  There is one event for
each of them, in order, and it tells what the command stands for.  The replay ends well when they
are all, and otherwise with the refusal of the command behind them; and a sink is handed these
events. -/
theorem Reached.replay_longest_prefix {s : Stream α} {cs : List Command} (h : s.Reached cs)
    (store : SourceStore) :
    let replay := s.replay store
    let n := replay.events.length
    (∀ m, s.ResolvableUpTo store cs m ↔ m ≤ n) ∧
      (∀ i event, replay.events[i]? = some event →
        ∃ c, cs[i]? = some c ∧ s.Tells store (cs.take i) c event) ∧
      (replay.result = .ok () ↔ n = cs.length) ∧
      replay.fault = cs[n]?.bind Command.refusal? ∧
      ∀ {σ : Type} (sink : σ → Event α → σ) (state : σ),
        s.replayInto store sink state = (replay.result, replay.events.foldl sink state) := by
  intro replay n
  have hdelivers : s.Delivers store [] cs replay := h.represents.delivers store
  obtain ⟨hfault, hend, hlast⟩ := hdelivers.refused
  have hresult : replay.result = .ok () ↔ replay.fault = none := by
    rw [Replay.result]
    cases replay.fault <;> simp
  refine ⟨?_, ?_, hresult.trans hend, hfault, s.replayInto_eq store⟩
  · intro m
    constructor
    · intro hm
      apply Nat.le_of_not_lt
      intro hlt
      have hn : n < cs.length := Nat.lt_of_lt_of_le hlt hm.1
      exact hlast cs[n] (List.getElem?_eq_getElem hn)
        (hm.2 n cs[n] hlt (List.getElem?_eq_getElem hn))
    · intro hm
      refine ⟨Nat.le_trans hm hdelivers.length_le, ?_⟩
      intro i c hi hc
      have hlt : i < replay.events.length := Nat.lt_of_lt_of_le hi hm
      obtain ⟨d, hd, hresolvable, _⟩ := hdelivers.tells (List.getElem?_eq_getElem hlt)
      rw [hc] at hd
      cases hd
      exact hresolvable
  · intro i event hi
    obtain ⟨c, hc, _, htells⟩ := hdelivers.tells hi
    exact ⟨c, hc, htells⟩

/-- The second run would split the first character of the source in two. -/
theorem Reached.replay_longest_prefix_split :
    let operations : List (Operation Unit) :=
      [.changeSource (.string 0), .write (.text { offset := 0, length := 2 }),
        .write (.text { offset := 1, length := 1 }), .write .toggleBold]
    let s := ((ofConfig {}).run operations).2
    let store : SourceStore := { strings := ["éa"] }
    let cs : List Command :=
      [.changeSourceString 0, .text { offset := 0, length := 2 },
        .text { offset := 1, length := 1 }, .toggleBold]
    let replay : Replay Unit :=
      { events := [.sourceChanged (.string 0), .text { offset := 0, length := 2 } "é"]
        fault := some (.invalidTextRun 1 1) }
    s.replay store = replay ∧ ∀ m, s.ResolvableUpTo store cs m ↔ m ≤ 2 := by
  intro operations s store cs replay
  have hreached : s.Reached cs := ⟨{}, operations, by decide, rfl, by decide⟩
  have hreplay : s.replay store = replay := by decide +kernel
  have hprefix := (hreached.replay_longest_prefix store).1
  rw [hreplay] at hprefix
  exact ⟨hreplay, hprefix⟩

end Stream

end StyledText
