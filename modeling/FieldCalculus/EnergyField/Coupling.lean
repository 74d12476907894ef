import FieldCalculus.EnergyField
/-!
# Couplings of two fields

Interaction and spatial flow move energy between two fields and keep its sum.
Entanglement links them, resonance amplifies both, and symbiosis lets each grow on a
share of the other.  Each coupling returns both fields as they are afterwards.
-/

namespace FieldCalculus.EnergyField

variable {α : Type} [Scalar α]

/-- One side of an interaction: `amount` of energy leaves and the angle moves by `drift`. -/
def exchanged (f : EnergyField α) (amount drift entropyGain : α) : EnergyField α :=
  f.aged { f.energy.drained amount with
    entropy := f.energy.entropy + entropyGain
    coherence := f.energy.coherence * 0.99
    angle := wrapAngle (f.energy.angle + drift) }

/-- A tenth of the difference in energy flows from the richer field to the poorer one, and
the angles drift toward each other. -/
def interact (f g : EnergyField α) : EnergyField α × EnergyField α :=
  let exchange := 0.1 * (f.energy.total - g.energy.total)
  let entropyGain := Scalar.abs exchange * 0.01
  let drift := 0.1 * (g.energy.angle - f.energy.angle)
  (exchanged f exchange drift entropyGain, exchanged g (-exchange) (-drift) entropyGain)

/-- Gives both fields the same coherence and links them by name. -/
def entangle (f g : EnergyField α) : EnergyField α × EnergyField α :=
  let coherence := (f.energy.coherence + g.energy.coherence) / 2.0 + 0.2
  let link (h : EnergyField α) (partner : String) : EnergyField α :=
    { h with energy := { h.energy with coherence := coherence }, partner := some partner }
  (link f g.name, link g f.name)

/-- How well two frequencies match: one when they are equal, falling toward zero. -/
def resonance (f g : EnergyField α) : α :=
  Scalar.exp (-Scalar.abs (f.frequency - g.frequency))

/-- Amplifies both fields as their frequencies match.  A good match also locks their angles. -/
def resonate (f g : EnergyField α) : EnergyField α × EnergyField α :=
  let r := resonance f g
  let amplification := 1.0 + 0.2 * r
  let meanAngle := (f.energy.angle + g.energy.angle) / 2.0
  let pump (h : EnergyField α) : EnergyField α :=
    h.aged { h.energy.scaled amplification with
      coherence := h.energy.coherence + 0.1 * r
      angle := if 0.5 < r then meanAngle else h.energy.angle }
  (pump f, pump g)

/-- The least distance that spatial flow reckons with. -/
def minDistance : α := 0.01

/-- The distance between two fields as spatial flow reckons it. -/
def span (f g : EnergyField α) : α :=
  Scalar.greatest (f.position.distance g.position) minDistance

/-- One side of a spatial flow: `amount` of energy leaves and the gradient turns along the
displacement `d`, forward or backward. -/
def flowed (f : EnergyField α) (amount sign : α) (d : Vector3 α) (entropyGain : α) :
    EnergyField α :=
  { f.aged { f.energy.drained amount with entropy := f.energy.entropy + entropyGain } with
    gradient :=
      ⟨f.gradient.x + sign * d.x * 0.1,
       f.gradient.y + sign * d.y * 0.1,
       f.gradient.z + sign * d.z * 0.1⟩ }

/-- Energy flows down the gradient between two positions, the more the closer they are. -/
def flow (f g : EnergyField α) : EnergyField α × EnergyField α :=
  let d : Vector3 α :=
    ⟨g.position.x - f.position.x, g.position.y - f.position.y, g.position.z - f.position.z⟩
  let amount := 0.05 * (f.energy.total - g.energy.total) / span f g
  let entropyGain := Scalar.abs amount * 0.01
  (flowed f amount (-1.0) d entropyGain, flowed g (-amount) 1.0 d entropyGain)

/-- Harvests `input`: seven tenths become energy and three tenths let the capacity grow.
Growth of the capacity earns a bonus of at most a fifth. -/
def regenerate (f : EnergyField α) (input : α) : EnergyField α :=
  let work := input * 0.7
  let growth := input * 0.3
  let capacity := f.capacity * (1.0 + growth / 100.0)
  let bonus :=
    if 0.0 < f.capacity then Scalar.least (capacity / f.capacity - 1.0) 0.2 else 0.0
  let e := f.energy
  { f.aged { e with
      total := (e.total + work) * (1.0 + bonus)
      kinetic := e.kinetic + work * 0.6
      potential := e.potential + work * 0.4
      entropy := e.entropy + input * 0.005
      coherence := Scalar.least (e.coherence + 0.01) 1.0 } with
    capacity := capacity }

/-- Each field regenerates on a twentieth of the other's energy.  Both pay half of the cost
and meet at the mean of their frequencies. -/
def symbiosis (f g : EnergyField α) : EnergyField α × EnergyField α :=
  let fromF := f.energy.total * 0.05
  let fromG := g.energy.total * 0.05
  let cost := 0.01 * (fromF + fromG)
  let grownF := f.regenerate fromG
  let grownG := g.regenerate fromF
  let frequency := (grownF.frequency + grownG.frequency) / 2.0
  let settle (h : EnergyField α) : EnergyField α :=
    { h with
      energy := { h.energy with total := h.energy.total - cost / 2.0 }
      frequency := frequency }
  (settle grownF, settle grownG)

end FieldCalculus.EnergyField
