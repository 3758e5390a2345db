import BuildFarm.Json.Value

namespace BuildFarm.Json

def glyphs (cs : List Char) : List Glyph :=
  cs.map .char

@[simp] theorem glyphs_nil : glyphs [] = [] := rfl

@[simp] theorem glyphs_cons (c : Char) (cs : List Char) :
    glyphs (c :: cs) = .char c :: glyphs cs := rfl

@[simp] theorem glyphs_append (cs ds : List Char) : glyphs (cs ++ ds) = glyphs cs ++ glyphs ds :=
  List.map_append

@[simp] theorem glyphs_length (cs : List Char) : (glyphs cs).length = cs.length :=
  List.length_map _

theorem text?_ofText (s : String) : (Bytes.ofText s).text? = some s := by
  have hb : (⟨(Bytes.ofText s).toArray⟩ : ByteArray) = s.toByteArray := by
    simp [Bytes.ofText]
  rw [Bytes.text?,hb,String.fromUTF8?,dif_pos s.isValidUTF8]
  rfl

theorem ofBytes_ofText (cs : List Char) :
    Glyph.ofBytes (Bytes.ofText (String.ofList cs)) = glyphs cs := by
  rw [Glyph.ofBytes,text?_ofText]
  simp [Glyph.ofString,glyphs]

/-- Nothing but blanks. -/
def Blank (ws : List Glyph) : Prop :=
  ∀ g ∈ ws, Reader.isBlank g = true

theorem blank_nil : Blank [] := by
  simp [Blank]

theorem blank_newline (level : Nat) : Blank (glyphs (newline level)) := by
  intro g hg
  obtain ⟨c,hc,rfl⟩ := List.mem_map.mp hg
  rcases List.mem_cons.mp hc with rfl | hc
  · decide
  · rw [List.eq_of_mem_replicate hc]
    decide

namespace Reader

/-- From the input the reader goes on to the rest, with a value that is as it should be. It may
stop only where `fault` holds. -/
structure Reads (r : Reader α) (fault : Prop) (input rest : List Glyph) (P : α → Prop) :
    Prop where
  run (place : Place) :
    match r ⟨input,place⟩ with
    | .ok (a,c) => c.rest = rest ∧ P a
    | .error _ => fault

namespace Reads

variable {fault : Prop} {input mid rest : List Glyph}

theorem bind {r : Reader α} {f : α → Reader β} {Q : β → Prop} (hr : Reads r fault input mid P)
    (hf : ∀ a, P a → Reads (f a) fault mid rest Q) : Reads (r >>= f) fault input rest Q := by
  constructor
  intro place
  have h := hr.run place
  change match Reader.bind r f ⟨input,place⟩ with
    | .ok (a,c) => c.rest = rest ∧ Q a
    | .error _ => fault
  unfold Reader.bind
  cases hc : r ⟨input,place⟩ with
  | error e =>
    rw [hc] at h
    exact h
  | ok p =>
    obtain ⟨a,c⟩ := p
    rw [hc] at h
    obtain ⟨hrest,ha⟩ := h
    have hc' : c = ⟨mid,c.place⟩ := by rw [← hrest]
    have hfa := (hf a ha).run c.place
    rw [← hc'] at hfa
    exact hfa

/-- A reader that cannot fail has a value, and stands in front of the rest. -/
theorem total {r : Reader α} {P : α → Prop} (h : Reads r False input rest P) (place : Place) :
    ∃ a after, r ⟨input,place⟩ = .ok (a,⟨rest,after⟩) ∧ P a := by
  have h := h.run place
  cases hc : r ⟨input,place⟩ with
  | error e =>
    rw [hc] at h
    exact h.elim
  | ok p =>
    obtain ⟨a,c⟩ := p
    rw [hc] at h
    obtain ⟨rfl,ha⟩ := h
    exact ⟨a,c.place,rfl,ha⟩

theorem pure {P : α → Prop} (h : P a) : Reads (Pure.pure a) fault input input P :=
  ⟨fun _ => ⟨rfl,h⟩⟩

theorem mono {r : Reader α} {P Q : α → Prop} {fault' : Prop} (h : Reads r fault input rest P)
    (hf : fault → fault') (hp : ∀ a, P a → Q a) : Reads r fault' input rest Q := by
  constructor
  intro place
  have h := h.run place
  cases hc : r ⟨input,place⟩ with
  | error e =>
    rw [hc] at h
    exact hf h
  | ok p =>
    obtain ⟨a,c⟩ := p
    rw [hc] at h
    exact ⟨h.1,hp a h.2⟩

theorem value {r : Reader α} {P Q : α → Prop} (h : Reads r fault input rest P)
    (hp : ∀ a, P a → Q a) : Reads r fault input rest Q :=
  h.mono id hp

theorem fail {P : α → Prop} (hf : fault) (cause : Cause) :
    Reads (Reader.fail cause) fault input rest P :=
  ⟨fun _ => hf⟩

theorem failAhead {P : α → Prop} (hf : fault) (cause : Cause) :
    Reads (Reader.failAhead cause) fault input rest P :=
  ⟨fun _ => hf⟩

theorem peek : Reads Reader.peek fault input input (· = input.head?) :=
  ⟨fun _ => ⟨rfl,rfl⟩⟩

theorem skip (g : Glyph) : Reads Reader.skip fault (g :: rest) rest (fun _ => True) :=
  ⟨fun _ => ⟨rfl,trivial⟩⟩

theorem peek_bind {f : Option Glyph → Reader β} {Q : β → Prop}
    (hf : Reads (f input.head?) fault input rest Q) :
    Reads (Reader.peek >>= f) fault input rest Q := by
  refine peek.bind ?_
  rintro _ rfl
  exact hf

theorem skip_bind {f : Unit → Reader β} {Q : β → Prop} (hf : Reads (f ()) fault input rest Q) :
    Reads (Reader.skip >>= f) fault (g :: input) rest Q :=
  (skip g).bind (fun _ _ => hf)

theorem pastBlanks_cons (hb : Blank ws) (hg : isBlank g = false) (place : Place) :
    (pastBlanks place (ws ++ g :: rest)).rest = g :: rest := by
  induction ws generalizing place with
  | nil => simp [pastBlanks,hg]
  | cons w ws ih =>
    simp only [List.cons_append,pastBlanks,hb w List.mem_cons_self]
    exact ih (fun v hv => hb v (List.mem_cons_of_mem _ hv)) _

theorem pastBlanks_end (hb : Blank ws) (place : Place) : (pastBlanks place ws).rest = [] := by
  induction ws generalizing place with
  | nil => rfl
  | cons w ws ih =>
    simp only [pastBlanks,hb w List.mem_cons_self]
    exact ih (fun v hv => hb v (List.mem_cons_of_mem _ hv)) _

theorem next_front (hb : Blank ws) (hg : isBlank g = false) :
    Reads next fault (ws ++ g :: rest) (g :: rest) (· = some g) := by
  have hblanks : Reads blanks fault (ws ++ g :: rest) (g :: rest) (fun _ => True) :=
    ⟨fun place => ⟨pastBlanks_cons hb hg place,trivial⟩⟩
  exact hblanks.bind (fun _ _ => peek)

theorem next_bind {f : Option Glyph → Reader β} {Q : β → Prop} (hb : Blank ws)
    (hg : isBlank g = false) (hf : Reads (f (some g)) fault (g :: mid) rest Q) :
    Reads (next >>= f) fault (ws ++ g :: mid) rest Q := by
  refine (next_front hb hg).bind ?_
  rintro _ rfl
  exact hf

theorem next_here {f : Option Glyph → Reader β} {Q : β → Prop} (hg : isBlank g = false)
    (hf : Reads (f (some g)) fault (g :: mid) rest Q) :
    Reads (next >>= f) fault (g :: mid) rest Q :=
  next_bind blank_nil hg hf

theorem next_end {f : Option Glyph → Reader β} {Q : β → Prop} (hb : Blank ws)
    (hf : Reads (f none) fault [] rest Q) : Reads (next >>= f) fault ws rest Q := by
  have hblanks : Reads blanks fault ws [] (fun _ => True) :=
    ⟨fun place => ⟨pastBlanks_end hb place,trivial⟩⟩
  refine (hblanks.bind (fun _ _ => peek)).bind ?_
  rintro _ rfl
  exact hf

theorem word (ws : List Char) : Reads (Reader.word ws) fault (glyphs ws ++ rest) rest
    (fun _ => True) := by
  induction ws with
  | nil => exact ⟨fun _ => ⟨rfl,trivial⟩⟩
  | cons w ws ih =>
    unfold Reader.word
    refine peek_bind ?_
    simp only [glyphs_cons,List.cons_append,List.head?_cons,↓reduceIte]
    exact skip_bind ih

/-- Readers differ in how they close after a failure alone. -/
theorem closing {r : Reader α} {P : α → Prop} (close : Reader Unit)
    (h : Reads r fault input rest P) : Reads (Reader.closing close r) fault input rest P := by
  constructor
  intro place
  have h := h.run place
  unfold Reader.closing
  cases hc : r ⟨input,place⟩ with
  | error e =>
    rw [hc] at h
    dsimp only
    cases close e.cursor with
    | ok p => exact h
    | error f => exact h
  | ok p =>
    rw [hc] at h
    exact h

/-- Reading a whole text comes to what is read up to its end, or to a failure. -/
theorem parse_cases {r : Reader α} {text : List Glyph} {P : α → Prop}
    (hr : Reads r fault text [] P) :
    match Json.parse r text with
    | .ok a => P a
    | .error _ => fault := by
  have hdone : Reads done fault [] [] (fun _ => True) :=
    Reads.next_end blank_nil (Reads.pure trivial)
  have hw : Reads (r >>= fun a => done >>= fun _ => Pure.pure a) fault text [] P :=
    hr.bind (fun a ha => hdone.bind (fun _ _ => Reads.pure ha))
  have hc := hw.run ⟨1,0⟩
  change match Except.mapError Stop.fault (Except.map Prod.fst
    ((r >>= fun a => done >>= fun _ => Pure.pure a) ⟨text,⟨1,0⟩⟩)) with
    | .ok a => P a
    | .error _ => fault
  cases hp : (r >>= fun a => done >>= fun _ => Pure.pure a : Reader α) ⟨text,⟨1,0⟩⟩ with
  | error e =>
    rw [hp] at hc
    exact hc
  | ok p =>
    rw [hp] at hc
    exact hc.2

/-- What is read up to the end of the text is the value of the text. -/
theorem parse {r : Reader α} {text : List Glyph} {P : α → Prop}
    (hr : Reads r fault text [] P) (h : Json.parse r text = .ok a) : P a := by
  have hp := hr.parse_cases
  rwa [h] at hp

/-- What cannot fail gives a value. -/
theorem parse_ok {r : Reader α} {text : List Glyph} {P : α → Prop}
    (hr : Reads r False text [] P) : ∃ a, Json.parse r text = .ok a ∧ P a := by
  have hp := hr.parse_cases
  cases h : Json.parse r text with
  | ok a =>
    rw [h] at hp
    exact ⟨a,rfl,hp⟩
  | error e =>
    rw [h] at hp
    exact hp.elim

end Reads

end Reader

/-- A document is read if its value is, and nothing but blanks follows. -/
theorem parse_eq_ok {r : Reader α} {doc : List Glyph} : parse r doc = .ok a ↔
    ∃ c e, r (Cursor.start doc) = .ok (a,c) ∧ Reader.done c = .ok ((),e) := by
  change Except.mapError Stop.fault (Except.map Prod.fst
    (Reader.bind r (fun a => Reader.bind Reader.done (fun _ => Reader.pure a))
      (Cursor.start doc))) = .ok a ↔ _
  unfold Reader.bind
  cases hr : r (Cursor.start doc) with
  | error e => exact iff_of_false nofun (fun ⟨_,_,h,_⟩ => nomatch h)
  | ok x =>
    obtain ⟨b,c⟩ := x
    dsimp only
    cases hd : Reader.done c with
    | error e =>
      refine iff_of_false nofun ?_
      rintro ⟨c',_,h,hdone⟩
      cases h
      cases hd.symm.trans hdone
    | ok y =>
      obtain ⟨_,d⟩ := y
      constructor
      · intro h
        cases h
        exact ⟨c,d,rfl,hd⟩
      · rintro ⟨_,_,h,_⟩
        cases h
        rfl

end BuildFarm.Json
