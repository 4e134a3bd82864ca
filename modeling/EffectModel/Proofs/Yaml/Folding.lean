import EffectModel.Yaml.Scalar
import Mathlib.Data.List.Basic

/-! What a scalar that is being read amounts to so far. Main statement: a folding that holds a text
holds it with whatever it takes in next. -/
namespace EffectModel.Yaml.Folding

/-- What a folding amounts to, the last character first. A line feed that has ended a line would become a
space, so another line end has to follow it before it counts. -/
structure Holds (folding : Folding) (text : List Char) : Prop where
  joined : folding.join.text = text
  fresh : folding.broken = false → folding.further = []
  settled : folding.broken = true → folding.lineEnd = ['\n'] → folding.further ≠ []

variable {folding : Folding} {text : List Char} {c : Char}

theorem holds_empty : Holds {} [] := ⟨rfl, fun _ => rfl, nofun⟩

theorem Holds.text_eq (holds : folding.Holds text) (line : folding.broken = false) :
    folding.gaps ++ folding.text = text := by
  simpa [join, line] using holds.joined

@[simp] theorem broken_push (folding : Folding) (c : Char) : (folding.push c).broken = false := by
  unfold push join
  split <;> rfl

@[simp] theorem gaps_push (folding : Folding) (c : Char) : (folding.push c).gaps = [] := by
  unfold push join
  split <;> rfl

@[simp] theorem broken_gap (folding : Folding) (c : Char) :
    (folding.gap c).broken = folding.broken := by
  unfold gap
  split <;> rfl

@[simp] theorem broken_lineBreak (folding : Folding) (written : List Char) :
    (folding.lineBreak written).broken = true := by
  unfold lineBreak
  split
  next broken => exact broken
  next => rfl

theorem Holds.push (holds : folding.Holds text) (c : Char) : (folding.push c).Holds (c :: text) := by
  have further : (folding.push c).further = [] := by
    unfold Folding.push join
    split <;> rfl
  refine ⟨?_, fun _ => further, by simp⟩
  rw [join, if_neg (by simp), gaps_push, List.nil_append, ← holds.joined]
  rfl

theorem Holds.gap (holds : folding.Holds text) (line : folding.broken = false) (c : Char) :
    (folding.gap c).Holds (c :: text) := by
  refine ⟨?_, ?_, by simp [line]⟩
  · simp [join, Folding.gap, line, ← holds.text_eq line]
  · simpa [Folding.gap, line] using holds.fresh

/-- Gaps behind the end of a line leave no trace. -/
theorem gap_of_broken (broken : folding.broken = true) (c : Char) : folding.gap c = folding := by
  rw [Folding.gap, if_pos broken]

theorem Holds.lineBreak_of_broken (holds : folding.Holds text) (broken : folding.broken = true) :
    (folding.lineBreak [c]).Holds (c :: text) := by
  have joined := holds.joined
  simp only [join, broken, if_true] at joined
  refine ⟨?_, by simp, by simp [Folding.lineBreak, broken]⟩
  simp only [Folding.lineBreak, broken, if_true, join]
  by_cases feed : folding.lineEnd = ['\n']
  · have further : folding.further ≠ [] := holds.settled broken feed
    simpa [feed, further] using joined
  · simpa [feed] using joined

theorem Holds.lineBreak (holds : folding.Holds text) (line : folding.broken = false)
    (closed : folding.gaps = []) (other : c ≠ '\n') : (folding.lineBreak [c]).Holds (c :: text) := by
  have text_eq := holds.text_eq line
  rw [closed, List.nil_append] at text_eq
  have further := holds.fresh line
  refine ⟨?_, by simp, ?_⟩
  · simp [Folding.lineBreak, join, line, other, further, text_eq]
  · simp [Folding.lineBreak, line, other]

/-- A line feed that is written twice counts once. -/
theorem Holds.lineFeed (holds : folding.Holds text) (line : folding.broken = false)
    (closed : folding.gaps = []) :
    ((folding.lineBreak ['\n']).lineBreak ['\n']).Holds ('\n' :: text) := by
  have text_eq := holds.text_eq line
  rw [closed, List.nil_append] at text_eq
  have further := holds.fresh line
  refine ⟨?_, by simp, ?_⟩
  · simp [Folding.lineBreak, join, line, further, text_eq]
  · simp [Folding.lineBreak, line]

end EffectModel.Yaml.Folding
