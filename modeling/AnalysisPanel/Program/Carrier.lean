import AnalysisPanel.Terminal.Host

/-! What carries out the acts of a host. A carrier has four means of doing so, in any monad: a world
that is computed with and the machine itself differ in these alone. -/

namespace AnalysisPanel

/-- What it takes to carry out acts in a state `σ`. -/
structure Carrier (m : Type → Type) (σ : Type) where
  print : σ → String → m σ
  log : σ → Log.Level → String → m σ
  order : σ → Service.Order → m σ
  save : σ → String → Bytes → m (Except Storage.SaveError String × σ)

namespace Carrier

variable {m : Type → Type} [Monad m] {σ : Type} (c : Carrier m σ)

/-- Carries out an act that touches no disk. -/
def say (s : σ) : Act → m σ
  | .print text => c.print s text
  | .log level message => c.log s level message
  | .order o => c.order s o
  | .save _ _ => pure s

/-- Carries out an act. -/
def act (s : σ) : Act → m σ
  | .save filename content => do
    let (result, s) ← c.save s filename content
    (Host.savedActs filename content result).foldlM c.say s
  | a => c.say s a

/-- Carries out acts, one after the other. -/
def actAll (s : σ) (acts : List Act) : m σ := acts.foldlM c.act s

end Carrier

end AnalysisPanel
