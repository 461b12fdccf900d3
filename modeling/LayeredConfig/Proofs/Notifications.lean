import LayeredConfig.Proofs.Passes
import LayeredConfig.Proofs.Places
import LayeredConfig.Proofs.Rebuilding

/-!
What is heard around rebuilding. A manager serves recorders and listeners that rebuild contexts, in
any order of registration. When the sources change, each listener that publishes a context lets all
recorders hear of it while it is served, so that a recorder hears of the change itself in its own
place among these announcements.
-/

namespace LayeredConfig

/-- What a registered listener is: a recorder, which notes a line for every event and ends as it
likes, or a listener that rebuilds the context of a holder and tells the manager about it. -/
inductive Part where
  | recorder (line : Event → String) (ends : Event → Outcome)
  | rebuilder (holder : Nat)

namespace Part

def isRecorder : Part → Bool
  | recorder _ _ => true
  | rebuilder _ => false

def Plays (m : Nat) (l : Listener) : Part → Prop
  | recorder line ends =>
    (∀ kind, l.considers kind = true) ∧ ∀ e, l.react e = .note (line e) (.finish (ends e))
  | rebuilder holder => l = .rebuilding holder (some m)

def Tells (parts : List Part) (heard : Nat × Event) (note : String) : Prop :=
  ∃ line ends, parts[heard.1]? = some (recorder line ends) ∧ note = line heard.2

def hearing (e : Event) (placed : List (Part × Nat)) : List (Nat × Event) :=
  (placed.filter (·.1.isRecorder)).map (fun x => (x.2, e))

theorem hearing_append (e : Event) (placed later : List (Part × Nat)) :
    hearing e (placed ++ later) = hearing e placed ++ hearing e later := by
  rw [hearing, List.filter_append, List.map_append, hearing, hearing]

theorem hearing_cons (e : Event) (x : Part × Nat) (placed : List (Part × Nat)) :
    hearing e (x :: placed) = hearing e [x] ++ hearing e placed :=
  hearing_append e [x] placed

def eventsAt (i : Nat) (heard : List (Nat × Event)) : List Event :=
  (heard.filter (·.1 = i)).map (·.2)

theorem eventsAt_append (i : Nat) (heard later : List (Nat × Event)) :
    eventsAt i (heard ++ later) = eventsAt i heard ++ eventsAt i later := by
  rw [eventsAt, List.filter_append, List.map_append, eventsAt, eventsAt]

def told (changed replaced : Event) (parts : List Part) (x : Part × Nat) (published : Bool) :
    List (Nat × Event) :=
  hearing changed [x] ++ if published then hearing replaced parts.zipIdx else []

def story (changed : Event) (replaced : Nat → Event) (parts : List Part) :
    Nat → List (Part × Nat) → List Bool → List (Nat × Event)
  | n, x :: placed, b :: published =>
    told changed (replaced n) parts x b ++
      story changed replaced parts (n + b.toNat) placed published
  | _, _, _ => []

section Places

variable {i : Nat} {placed : List (Part × Nat)} {parts : List Part} {part : Part}

theorem ne_of_mem_take {x : Part × Nat} (hx : x ∈ parts.zipIdx.take i) : x.2 ≠ i := by
  obtain ⟨j, hj, rfl⟩ := List.mem_iff_getElem.mp hx
  rw [List.length_take] at hj
  simp only [List.getElem_take, List.getElem_zipIdx]
  omega

theorem ne_of_mem_drop {x : Part × Nat} (hx : x ∈ parts.zipIdx.drop (i + 1)) : x.2 ≠ i := by
  obtain ⟨j, hj, rfl⟩ := List.mem_iff_getElem.mp hx
  simp only [List.getElem_drop, List.getElem_zipIdx]
  omega

theorem eventsAt_hearing_of_ne (e : Event) (h : ∀ x ∈ placed, x.2 ≠ i) :
    eventsAt i (hearing e placed) = [] := by
  simp only [eventsAt, hearing, List.map_eq_nil_iff, List.filter_eq_nil_iff, List.mem_map,
    List.mem_filter, decide_eq_true_eq]
  rintro _ ⟨x, ⟨hx, -⟩, rfl⟩
  exact h x hx

theorem eventsAt_hearing_self (e : Event) (hpart : part.isRecorder = true) :
    eventsAt i (hearing e [(part, i)]) = [e] := by
  simp [eventsAt, hearing, hpart]

theorem eventsAt_hearing (e : Event) (hi : parts[i]? = some part)
    (hpart : part.isRecorder = true) : eventsAt i (hearing e parts.zipIdx) = [e] := by
  have hplace : parts.zipIdx[i]? = some (part, i) := by simp [hi]
  rw [eq_take_cons_drop hplace, hearing_append, hearing_cons, eventsAt_append, eventsAt_append,
    eventsAt_hearing_of_ne e (fun _ => ne_of_mem_take),
    eventsAt_hearing_of_ne e (fun _ => ne_of_mem_drop), eventsAt_hearing_self e hpart]
  rfl

theorem eventsAt_told_of_ne {changed replaced : Event} {x : Part × Nat} (hi : parts[i]? = some part)
    (hpart : part.isRecorder = true) (hx : x.2 ≠ i) (published : Bool) :
    eventsAt i (told changed replaced parts x published) =
      if published then [replaced] else [] := by
  rw [told, eventsAt_append, eventsAt_hearing_of_ne changed (by simpa using hx), List.nil_append]
  cases published with
  | false => rfl
  | true => exact eventsAt_hearing replaced hi hpart

variable {changed : Event} {replaced : Nat → Event} {published later : List Bool} {n : Nat}

theorem story_append {others : List (Part × Nat)} (hlength : published.length = placed.length) :
    story changed replaced parts n (placed ++ others) (published ++ later) =
      story changed replaced parts n placed published ++
        story changed replaced parts (n + published.count true) others later := by
  induction placed generalizing published n with
  | nil =>
    obtain rfl := List.length_eq_zero_iff.mp hlength
    rfl
  | cons x placed ih =>
    obtain ⟨b, published, rfl⟩ := List.exists_cons_of_length_eq_add_one hlength
    have hread : n + b.toNat + published.count true = n + (b :: published).count true := by
      cases b with
      | false => simp
      | true => simp; omega
    rw [List.cons_append, List.cons_append, story, story, ih (Nat.succ.inj hlength),
      List.append_assoc, hread]

theorem eventsAt_story_of_ne (hi : parts[i]? = some part) (hpart : part.isRecorder = true)
    (hne : ∀ x ∈ placed, x.2 ≠ i) (hlength : published.length = placed.length) :
    eventsAt i (story changed replaced parts n placed published) =
      (List.range' n (published.count true)).map replaced := by
  induction placed generalizing published n with
  | nil =>
    obtain rfl := List.length_eq_zero_iff.mp hlength
    rfl
  | cons x placed ih =>
    obtain ⟨b, published, rfl⟩ := List.exists_cons_of_length_eq_add_one hlength
    have hrest := ih (n := n + b.toNat) (fun y hy => hne y (List.mem_cons_of_mem _ hy))
      (Nat.succ.inj hlength)
    have hfirst : eventsAt i (told changed (replaced n) parts x b) =
        if b then [replaced n] else [] :=
      eventsAt_told_of_ne hi hpart (hne x List.mem_cons_self) b
    rw [story, eventsAt_append, hfirst, hrest]
    cases b with
    | false => simp
    | true => simp [List.range'_succ]

theorem eventsAt_story (hi : parts[i]? = some part) (hpart : part.isRecorder = true)
    (hlength : published.length = parts.length) (hown : published[i]? = some false) :
    eventsAt i (story changed replaced parts n parts.zipIdx published) =
      (List.range' n ((published.take i).count true)).map replaced ++
        changed :: (List.range' (n + (published.take i).count true)
          ((published.drop (i + 1)).count true)).map replaced := by
  have hplace : parts.zipIdx[i]? = some (part, i) := by simp [hi]
  -- The turn of the recorder cuts what is heard in two.
  have hsplit : story changed replaced parts n parts.zipIdx published =
      story changed replaced parts n (parts.zipIdx.take i) (published.take i) ++
        (told changed (replaced (n + (published.take i).count true)) parts (part, i) false ++
          story changed replaced parts (n + (published.take i).count true)
            (parts.zipIdx.drop (i + 1)) (published.drop (i + 1))) := by
    rw [eq_take_cons_drop hplace, eq_take_cons_drop hown, story_append (by simp [hlength]), story,
      ← eq_take_cons_drop hplace, ← eq_take_cons_drop hown]
    rfl
  have hself : eventsAt i (told changed (replaced (n + (published.take i).count true)) parts
      (part, i) false) = [changed] := by
    rw [told, eventsAt_append, eventsAt_hearing_self changed hpart]
    rfl
  rw [hsplit, eventsAt_append, eventsAt_append, hself,
    eventsAt_story_of_ne hi hpart (fun _ => ne_of_mem_take) (by simp [hlength]),
    eventsAt_story_of_ne hi hpart (fun _ => ne_of_mem_drop) (by simp [hlength])]
  rfl

end Places

end Part

namespace Hub

structure Calm (h h' : Hub) : Prop where
  listeners : h'.listeners = h.listeners
  managers : h'.managers = h.managers
  clock : h'.clock = h.clock

structure Quiet (h h' : Hub) : Prop where
  holders : h'.holders = h.holders
  readings : h'.readings = h.readings

structure Heard (parts : List Part) (heard : List (Nat × Event)) (h h' : Hub) : Prop where
  calm : Calm h h'
  noted : ∃ notes, h'.notes = h.notes ++ notes ∧ List.Forall₂ (Part.Tells parts) heard notes

structure Stages (h : Hub) (m : Nat) (registrations : List Registration) (parts : List Part) :
    Prop where
  live : ∃ next, h.manager? m = some ⟨next, registrations⟩
  played :
    List.Forall₂ (fun r part => Part.Plays m (h.listener r.listener) part) registrations parts

variable {h h' h'' : Hub} {m : Nat} {parts : List Part} {heard later : List (Nat × Event)}

theorem Calm.refl (h : Hub) : Calm h h := ⟨rfl, rfl, rfl⟩

theorem Calm.trans (hf : Calm h h') (hg : Calm h' h'') : Calm h h'' :=
  ⟨hg.listeners.trans hf.listeners, hg.managers.trans hf.managers, hg.clock.trans hf.clock⟩

theorem Calm.listener (hc : Calm h h') (l : Nat) : h'.listener l = h.listener l := by
  rw [Hub.listener, Hub.listener, hc.listeners]

theorem Calm.stages {registrations : List Registration} (hc : Calm h h')
    (hs : h.Stages m registrations parts) : h'.Stages m registrations parts := by
  constructor
  · obtain ⟨next, hm⟩ := hs.live
    exact ⟨next, by rw [manager?, hc.managers, ← manager?, hm]⟩
  · refine hs.played.imp (fun r part hp => ?_)
    rwa [hc.listener]

theorem Heard.of_notes_eq (hc : Calm h h') (hn : h'.notes = h.notes) : Heard parts [] h h' :=
  ⟨hc, [], by rw [hn, List.append_nil], .nil⟩

theorem Heard.refl (h : Hub) : Heard parts [] h h := .of_notes_eq (.refl h) rfl

theorem Heard.trans (hf : Heard parts heard h h') (hg : Heard parts later h' h'') :
    Heard parts (heard ++ later) h h'' := by
  obtain ⟨notes, hnotes, htold⟩ := hf.noted
  obtain ⟨notes', hnotes', htold'⟩ := hg.noted
  refine ⟨hf.calm.trans hg.calm, notes ++ notes', ?_, List.rel_append htold htold'⟩
  rw [hnotes', hnotes, List.append_assoc]

theorem Quiet.refl (h : Hub) : Quiet h h := ⟨rfl, rfl⟩

theorem Quiet.trans (hf : Quiet h h') (hg : Quiet h' h'') : Quiet h h'' :=
  ⟨hg.holders.trans hf.holders, hg.readings.trans hf.readings⟩

theorem heard_elim_addLog (parts : List Part) (h : Hub) (line : Option LogLine) :
    Heard parts [] h (line.elim h h.addLog) ∧ Quiet h (line.elim h h.addLog) := by
  cases line with
  | none => exact ⟨.refl h, .refl h⟩
  | some line => exact ⟨.of_notes_eq ⟨rfl, rfl, rfl⟩ rfl, rfl, rfl⟩

abbrev serving (depth : Nat) : Nat → Event → Hub → Outcome × Hub := serve (fireWithin depth)

end Hub

namespace Turn

open Hub

variable {t : Turn} {e : Event} {m depth : Nat} {parts : List Part} {x : Part × Nat} {h h' : Hub}

def Cast (m : Nat) (parts : List Part) (h : Hub) (t : Turn) (x : Part × Nat) : Prop :=
  Part.Plays m (h.listener t.registration.listener) x.1 ∧ parts[x.2]? = some x.1

theorem Cast.calm (hx : Cast m parts h t x) (hc : Calm h h') : Cast m parts h' t x := by
  rwa [Cast, hc.listener]

theorem Served.recorder {line : Event → String} {ends : Event → Outcome} {i : Nat}
    (ht : t.Served (serving depth) e) (hx : Cast m parts t.before t (.recorder line ends, i)) :
    t.ended = some (ends e) ∧ Quiet t.before t.after ∧
      Heard parts [(i, e)] t.before t.after := by
  obtain ⟨⟨hconsiders, hreact⟩, hplace⟩ := hx
  have hinvoked := ht.invoked_iff.mpr ((Listener.considers_iff _ _).mp (hconsiders e.kind))
  obtain ⟨o, ho⟩ := Option.isSome_iff_exists.mp hinvoked
  obtain ⟨left, hrun, hafter⟩ := ht.ran o ho
  rw [serving, serve, hreact e] at hrun
  obtain ⟨rfl, rfl⟩ := Prod.mk.inj hrun
  have hnoted : Heard parts [(i, e)] t.before (t.before.addNote (line e)) :=
    ⟨⟨rfl, rfl, rfl⟩, [line e], rfl, .cons ⟨line, ends, hplace, rfl⟩ .nil⟩
  obtain ⟨hlogged, hquiet⟩ := heard_elim_addLog parts (t.before.addNote (line e))
    ((ends e).logLine? t.listener.name)
  rw [← hafter] at hlogged hquiet
  exact ⟨ho, ⟨hquiet.holders, hquiet.readings⟩, hnoted.trans hlogged⟩

theorem Served.rebuilder_skipped {behave : Nat → Event → Hub → Outcome × Hub} {holder i : Nat}
    (ht : t.Served behave e) (he : e.kind = .contextReplaced)
    (hx : Cast m parts t.before t (.rebuilder holder, i)) :
    t.ended = none ∧ t.after = t.before := by
  have hl : t.listener = .rebuilding holder (some m) := hx.1
  have hnone : t.ended = none := by
    rw [← Option.not_isSome_iff_eq_none, ht.invoked_iff, hl, he]
    simp [Listener.rebuilding]
  exact ⟨hnone, ht.skipped hnone⟩

theorem Served.hearing (ht : t.Served (serving depth) e) (he : e.kind = .contextReplaced)
    (hx : Cast m parts t.before t x) :
    Heard parts (Part.hearing e [x]) t.before t.after ∧ Quiet t.before t.after ∧
      t.ended.isSome = x.1.isRecorder := by
  obtain ⟨part, i⟩ := x
  cases part with
  | recorder line ends =>
    obtain ⟨hended, hquiet, hheard⟩ := ht.recorder hx
    refine ⟨hheard, hquiet, ?_⟩
    rw [hended]
    rfl
  | rebuilder holder =>
    obtain ⟨hended, hafter⟩ := ht.rebuilder_skipped he hx
    rw [hafter, hended]
    exact ⟨.refl _, .refl _, rfl⟩

theorem Joined.hearing {turns : List Turn} {placed : List (Part × Nat)} (hj : Joined h turns h')
    (he : e.kind = .contextReplaced) (hs : ∀ t ∈ turns, t.Served (serving depth) e)
    (hp : List.Forall₂ (Cast m parts h) turns placed) :
    Heard parts (Part.hearing e placed) h h' ∧ Quiet h h' ∧
      List.Forall₂ (fun t x => t.ended.isSome = x.1.isRecorder) turns placed := by
  induction turns generalizing h placed with
  | nil =>
    obtain rfl : h' = h := hj
    cases hp
    exact ⟨.refl h', .refl h', .nil⟩
  | cons t turns ih =>
    obtain ⟨rfl, hrest⟩ := hj
    cases hp with
    | @cons _ x _ placed hx hp =>
      obtain ⟨hheard, hquiet, hended⟩ := (hs t List.mem_cons_self).hearing he hx
      obtain ⟨hlater, hquiet', hall⟩ := ih hrest
        (fun u hu => hs u (List.mem_cons_of_mem _ hu)) (hp.imp (fun _ _ hu => hu.calm hheard.calm))
      rw [Part.hearing_cons]
      exact ⟨hheard.trans hlater, hquiet.trans hquiet', .cons hended hall⟩

end Turn

namespace Hub

variable {h : Hub} {m : Nat} {registrations : List Registration} {parts : List Part}

theorem Stages.cast_of (hs : h.Stages m registrations parts) {turns : List Turn}
    (hturns : turns.map Turn.registration = registrations) :
    List.Forall₂ (Turn.Cast m parts h) turns parts.zipIdx := by
  have hplayed := hs.played
  rw [← hturns, List.forall₂_map_left_iff] at hplayed
  rw [List.forall₂_iff_get] at hplayed ⊢
  refine ⟨by simpa using hplayed.1, fun i hi hi' => ?_⟩
  have hlt : i < parts.length := by simpa using hi'
  simp only [List.get_eq_getElem, List.getElem_zipIdx, Nat.zero_add, Turn.Cast]
  exact ⟨hplayed.2 i hi hlt, List.getElem?_eq_getElem hlt⟩

theorem Stages.fireWithin_turns (hs : h.Stages m registrations parts) (depth : Nat) (e : Event) :
    ∃ (turns : List Turn) (report : Report) (after : Hub),
      fireWithin (depth + 1) m e h = (some report, after) ∧
      turns.map Turn.registration = registrations ∧ Turn.Joined h turns after ∧
      ∀ t ∈ turns, t.Served (serving depth) e := by
  obtain ⟨next, hm⟩ := hs.live
  obtain ⟨turns, report, after, hfire, hpassed⟩ := fireBy_passed (serving depth) e hm
  exact ⟨turns, report, after, hfire, hpassed.registrations, hpassed.joined, hpassed.served⟩

theorem applyChange_cases (depth i : Nat) {m : Nat} {a : Manager} (change : ContextChange) {h : Hub}
    (hm : h.manager? m = some a) :
    (∃ held c, h.holder? i = some held ∧ rebuild change held.current = .ok c ∧
      applyChange (fireWithin depth) i (some m) change h =
        (.rebuilt c, (fireWithin depth m (.contextReplaced change.version h.now)
          (h.setHolder i (held.publish c)).tick).2)) ∨
    ∃ applied, (∀ c, applied ≠ .rebuilt c) ∧
      applyChange (fireWithin depth) i (some m) change h = (applied, h) := by
  cases hheld : h.holder? i with
  | none => exact .inr ⟨.failed (.reconfigurationFailed ""), by simp, by rw [applyChange, hheld]⟩
  | some held =>
    by_cases hidle : change.Idle held.current
    · exact .inr ⟨_, by simp, applyChange_idle hheld hidle⟩
    · cases hrebuild : rebuild change held.current with
      | error e => exact .inr ⟨_, by simp, applyChange_error hheld hidle hrebuild⟩
      | ok c =>
        refine .inl ⟨held, c, rfl, hrebuild, ?_⟩
        rw [applyChange_rebuilt hheld hidle hrebuild,
          announced_live depth (h := h.setHolder i (held.publish c)) hm]
        rfl

end Hub

namespace Turn

open Hub

variable {t : Turn} {m depth : Nat} {change : ContextChange} {registrations : List Registration}
  {parts : List Part} {x : Part × Nat} {h h' : Hub}

def publishes (depth m : Nat) (change : ContextChange) (t : Turn) : Part → Bool
  | .recorder _ _ => false
  | .rebuilder holder =>
    match (applyChange (fireWithin depth) holder (some m) change t.before).1 with
    | .rebuilt _ => true
    | _ => false

/-- What a listener that rebuilds does in its turn. If it publishes a context, there is a pass
inside its turn in which the recorders are invoked and nobody else; if not, the holders are left as
they are. -/
structure Rebuilds (depth m : Nat) (change : ContextChange) (registrations : List Registration)
    (parts : List Part) (holder : Nat) (t : Turn) : Prop where
  published : t.publishes (depth + 1) m change (.rebuilder holder) = true →
    ∃ (held : Holder) (c : Context) (inner : List Turn), t.before.holder? holder = some held ∧
      rebuild change held.current = .ok c ∧ t.after.holder? holder = some (held.publish c) ∧
      inner.map Turn.registration = registrations ∧
      Joined (t.before.setHolder holder (held.publish c)).tick inner t.after ∧
      (∀ u ∈ inner, u.Served (serving depth) (.contextReplaced change.version t.before.now)) ∧
      List.Forall₂ (fun u part => u.ended.isSome = part.isRecorder) inner parts
  kept : t.publishes (depth + 1) m change (.rebuilder holder) = false → Quiet t.before t.after

theorem Served.rebuilder {holder i : Nat} {applied : Applied} {left : Hub}
    (ht : t.Served (serving depth) (.contextChanged change))
    (hx : Cast m parts t.before t (.rebuilder holder, i))
    (happly : applyChange (fireWithin depth) holder (some m) change t.before = (applied, left)) :
    t.after = ((Listener.outcomeOf applied).logLine? t.listener.name).elim left left.addLog := by
  have hl : t.before.listener t.registration.listener = .rebuilding holder (some m) := hx.1
  have hinvoked : t.ended.isSome = true := by
    rw [ht.invoked_iff, listener, hl]
    simp [Listener.rebuilding, Event.kind]
  obtain ⟨o, ho⟩ := Option.isSome_iff_exists.mp hinvoked
  obtain ⟨_, hrun, hafter⟩ := ht.ran o ho
  have hreact : serving depth t.registration.listener (.contextChanged change) t.before =
      (Listener.outcomeOf applied, left) := by
    simp only [serving, serve, hl, Listener.rebuilding, runTask, happly]
  rw [hreact] at hrun
  obtain ⟨rfl, rfl⟩ := Prod.mk.inj hrun
  exact hafter

theorem publishes_rebuilder_iff {holder : Nat} :
    t.publishes depth m change (.rebuilder holder) = true ↔
      ∃ c, (applyChange (fireWithin depth) holder (some m) change t.before).1 = .rebuilt c := by
  rw [publishes]
  cases (applyChange (fireWithin depth) holder (some m) change t.before).1 <;> simp

theorem Served.rebuilder_cases {holder i : Nat}
    (ht : t.Served (serving (depth + 1)) (.contextChanged change))
    (hs : t.before.Stages m registrations parts)
    (hx : Cast m parts t.before t (.rebuilder holder, i)) :
    t.Rebuilds depth m change registrations parts holder ∧
      Heard parts (if t.publishes (depth + 1) m change (.rebuilder holder) then
        Part.hearing (.contextReplaced change.version t.before.now) parts.zipIdx else [])
        t.before t.after ∧
      t.after.readings =
        t.before.readings + (t.publishes (depth + 1) m change (.rebuilder holder)).toNat := by
  -- A context that is published is announced to the recorders before the turn ends.
  obtain ⟨next, hm⟩ := hs.live
  rcases applyChange_cases (depth + 1) holder change hm with
    ⟨held, c, hheld, hrebuild, happly⟩ | ⟨applied, hnot, happly⟩
  · have hpublishes : t.publishes (depth + 1) m change (.rebuilder holder) = true :=
      publishes_rebuilder_iff.mpr ⟨c, congrArg Prod.fst happly⟩
    have hset : Heard parts [] t.before (t.before.setHolder holder (held.publish c)).tick :=
      .of_notes_eq ⟨rfl, rfl, rfl⟩ rfl
    have hstages := hset.calm.stages hs
    -- The announcement is a pass over the same listeners, with the context published already.
    obtain ⟨inner, report, after, hfire, hmap, hjoined, hserved⟩ :=
      hstages.fireWithin_turns depth (.contextReplaced change.version t.before.now)
    rw [hfire] at happly
    obtain rfl : t.after = after := ht.rebuilder hx happly
    obtain ⟨hheard, hquiet, hended⟩ := hjoined.hearing rfl hserved (hstages.cast_of hmap)
    have hholder : t.after.holder? holder = some (held.publish c) := by
      rw [holder?, hquiet.holders]
      exact holder?_setHolder hheld _
    rw [hpublishes, if_pos rfl]
    refine ⟨⟨fun _ => ?_, fun hf => ?_⟩, hset.trans hheard, hquiet.readings⟩
    · refine ⟨held, c, inner, hheld, hrebuild, hholder, hmap, hjoined, hserved, ?_⟩
      exact forall₂_of_zipIdx hended
    · rw [hpublishes] at hf
      cases hf
  · have hpublishes : t.publishes (depth + 1) m change (.rebuilder holder) = false := by
      rw [← Bool.not_eq_true, publishes_rebuilder_iff, happly]
      rintro ⟨c, hc⟩
      exact hnot c hc
    have hafter := ht.rebuilder hx happly
    obtain ⟨hheard, hquiet⟩ := heard_elim_addLog parts t.before
      ((Listener.outcomeOf applied).logLine? t.listener.name)
    rw [← hafter] at hheard hquiet
    rw [hpublishes, if_neg Bool.false_ne_true]
    refine ⟨⟨fun hf => ?_, fun _ => hquiet⟩, hheard, hquiet.readings⟩
    rw [hpublishes] at hf
    cases hf

theorem Served.changed (ht : t.Served (serving (depth + 1)) (.contextChanged change))
    (hs : t.before.Stages m registrations parts) (hx : Cast m parts t.before t x) :
    Heard parts (Part.told (.contextChanged change)
      (.contextReplaced change.version t.before.now) parts x
      (t.publishes (depth + 1) m change x.1)) t.before t.after ∧
    t.after.readings = t.before.readings + (t.publishes (depth + 1) m change x.1).toNat ∧
    ∀ holder, x.1 = .rebuilder holder → t.Rebuilds depth m change registrations parts holder := by
  obtain ⟨part, i⟩ := x
  cases part with
  | recorder line ends =>
    obtain ⟨-, hquiet, hheard⟩ := ht.recorder hx
    exact ⟨hheard, hquiet.readings, fun holder heq => by cases heq⟩
  | rebuilder holder =>
    obtain ⟨hrebuilds, hheard, hreadings⟩ := ht.rebuilder_cases hs hx
    refine ⟨hheard, hreadings, ?_⟩
    rintro _ ⟨⟩
    exact hrebuilds

def published (depth m : Nat) (change : ContextChange) (turns : List Turn) (parts : List Part) :
    List Bool :=
  List.zipWith (publishes (depth + 1) m change) turns parts

theorem published_recorder {turns : List Turn} {i : Nat} {line : Event → String}
    {ends : Event → Outcome} (hlength : turns.length = parts.length)
    (hi : parts[i]? = some (.recorder line ends)) :
    (published depth m change turns parts)[i]? = some false := by
  obtain ⟨hlt, -⟩ := List.getElem?_eq_some_iff.mp hi
  rw [published, List.getElem?_zipWith, hi, List.getElem?_eq_getElem (hlength ▸ hlt)]
  rfl

theorem Joined.changed {turns : List Turn} {placed : List (Part × Nat)} (hj : Joined h turns h')
    (hs : h.Stages m registrations parts)
    (hserved : ∀ t ∈ turns, t.Served (serving (depth + 1)) (.contextChanged change))
    (hp : List.Forall₂ (Cast m parts h) turns placed) :
    Heard parts (Part.story (.contextChanged change)
      (fun n => .contextReplaced change.version (h.clock n)) parts h.readings placed
      (published depth m change turns (placed.map (·.1)))) h h' ∧
    List.Forall₂ (fun t x => ∀ holder, x.1 = Part.rebuilder holder →
      t.Rebuilds depth m change registrations parts holder) turns placed := by
  induction turns generalizing h placed with
  | nil =>
    obtain rfl : h' = h := hj
    cases hp
    exact ⟨.refl h', .nil⟩
  | cons t turns ih =>
    obtain ⟨rfl, hrest⟩ := hj
    cases hp with
    | @cons _ x _ placed hx hp =>
      obtain ⟨hheard, hreadings, hrebuilds⟩ := (hserved t List.mem_cons_self).changed hs hx
      obtain ⟨hlater, hall⟩ := ih hrest (hheard.calm.stages hs)
        (fun u hu => hserved u (List.mem_cons_of_mem _ hu))
        (hp.imp (fun _ _ hu => hu.calm hheard.calm))
      rw [hheard.calm.clock, hreadings] at hlater
      exact ⟨hheard.trans hlater, .cons hrebuilds hall⟩

end Turn

namespace Hub

variable {h : Hub} {m : Nat} {registrations : List Registration} {parts : List Part}

/-- What each recorder hears around the change, in order, and what each listener that rebuilds does
in its turn. Each announcement reads the clock once. -/
theorem fireWithin_announces (depth : Nat) (change : ContextChange)
    (hs : h.Stages m registrations parts) :
    ∃ (turns : List Turn) (report : Report) (after : Hub) (heard : List (Nat × Event)),
      let published := Turn.published depth m change turns parts
      let replaced := fun n => Event.contextReplaced change.version (h.clock n)
      fireWithin (depth + 2) m (.contextChanged change) h = (some report, after) ∧
      turns.map Turn.registration = registrations ∧ Turn.Joined h turns after ∧
      (∀ t ∈ turns, t.Served (serving (depth + 1)) (.contextChanged change)) ∧
      Heard parts heard h after ∧
      (∀ i line ends, parts[i]? = some (.recorder line ends) → Part.eventsAt i heard =
        (List.range' h.readings ((published.take i).count true)).map replaced ++
          .contextChanged change ::
            (List.range' (h.readings + (published.take i).count true)
              ((published.drop (i + 1)).count true)).map replaced) ∧
      List.Forall₂ (fun t part => ∀ holder, part = Part.rebuilder holder →
        t.Rebuilds depth m change registrations parts holder) turns parts := by
  obtain ⟨turns, report, after, hfire, hmap, hjoined, hserved⟩ :=
    hs.fireWithin_turns (depth + 1) (.contextChanged change)
  have hcast := hs.cast_of hmap
  obtain ⟨hheard, hrebuilds⟩ := hjoined.changed hs hserved hcast
  rw [List.zipIdx_map_fst] at hheard
  have hlength : turns.length = parts.length := by simpa using hcast.length_eq
  refine ⟨turns, report, after, _, hfire, hmap, hjoined, hserved, hheard, ?_, ?_⟩
  · intro i line ends hi
    exact Part.eventsAt_story hi rfl (by simp [Turn.published, hlength])
      (Turn.published_recorder hlength hi)
  · exact forall₂_of_zipIdx hrebuilds

section Shared

def sharedLine (name : String) (e : Event) : String := name ++ " " ++ e.kind.text

def sharedRecorder (name : String) (ends : Outcome) : Listener :=
  ⟨name, true, [], fun e => .note (sharedLine name e) (.finish ends)⟩

def sharedRegistrations : List Registration := [⟨1, 0⟩, ⟨2, 1⟩, ⟨3, 2⟩, ⟨4, 3⟩, ⟨5, 4⟩]

def sharedParts : List Part :=
  [.recorder (sharedLine "first") (fun _ => .done), .rebuilder 0,
    .recorder (sharedLine "second") (fun _ => .failed (.contextBuildFailed "no room")),
    .rebuilder 0, .rebuilder 1]

def sharedSource : Source := .fixed 1 "env" 200 true (.ofList [("a", "9")]) .empty

def sharedHub : Hub :=
  { Hub.empty with
    listeners := [sharedRecorder "first" .done, .rebuilding 0 (some 0),
      sharedRecorder "second" (.failed (.contextBuildFailed "no room")), .rebuilding 0 (some 0),
      .rebuilding 1 (some 0)]
    managers := [some ⟨6, sharedRegistrations⟩]
    holders := [.new ⟨[sharedSource], [], .empty 0⟩, .new ⟨[sharedSource], [], .empty 0⟩]
    clock := fun n => ⟨n, 0⟩ }

def sharedChange : ContextChange := ⟨"c1", default, [], [sharedSource], []⟩

theorem fireWithin_announces_shared :
    sharedHub.Stages 0 sharedRegistrations sharedParts ∧ ∃ turns report after heard,
      fireWithin 2 0 (.contextChanged sharedChange) sharedHub = (some report, after) ∧
      Heard sharedParts heard sharedHub after ∧
      after.notes = ["first ContextChanged", "first ContextReplaced", "second ContextReplaced",
        "second ContextChanged", "first ContextReplaced", "second ContextReplaced"] ∧
      let published := Turn.published 0 0 sharedChange turns sharedParts
      let replaced := fun (n : Nat) => Event.contextReplaced "c1" ⟨n, 0⟩
      Part.eventsAt 2 heard =
        (List.range' 0 ((published.take 2).count true)).map replaced ++
          .contextChanged sharedChange ::
            (List.range' (0 + (published.take 2).count true)
              ((published.drop 3).count true)).map replaced := by
  have hs : sharedHub.Stages 0 sharedRegistrations sharedParts := by
    refine ⟨⟨6, rfl⟩, .cons ?_ (.cons rfl (.cons ?_ (.cons rfl (.cons rfl .nil))))⟩
    · exact ⟨fun _ => rfl, fun _ => rfl⟩
    · exact ⟨fun _ => rfl, fun _ => rfl⟩
  have hnotes : (fireWithin 2 0 (.contextChanged sharedChange) sharedHub).2.notes =
      ["first ContextChanged", "first ContextReplaced", "second ContextReplaced",
        "second ContextChanged", "first ContextReplaced", "second ContextReplaced"] := rfl
  obtain ⟨turns, report, after, heard, hfire, -, -, -, hheard, hevents, -⟩ :=
    fireWithin_announces 0 sharedChange hs
  rw [hfire] at hnotes
  exact ⟨hs, turns, report, after, heard, hfire, hheard, hnotes, hevents 2 _ _ rfl⟩

end Shared

end Hub

end LayeredConfig
