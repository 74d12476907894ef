import FieldCalculus.Scenario.Basic
/-!
# The built-in scenarios

One scenario for each capability of the calculus, and two that combine them.
-/

namespace FieldCalculus.Scenario

variable {α : Type} [Scalar α]

/-- Two fields that come into being by interacting. -/
def helloWorld : Scenario α where
  id := "hello-world"
  title := "Hello World (Relational)"
  seeds := []
  steps := [.once "∇F(self↔world)|∂E/∂t=0"]

/-- A plant that harvests energy. -/
def regenerativeGrowth : Scenario α where
  id := "regenerative-growth"
  title := "Regenerative Growth Cycle"
  seeds := [.plain "plant" 100.0]
  steps := [⟨"∮regenerate(plant, 20)", some 5.0⟩]

/-- A system that decays. -/
def naturalDecay : Scenario α where
  id := "natural-decay"
  title := "Natural Decay"
  seeds := [.plain "unstable_system" 150.0]
  steps := [⟨"∂decay(unstable_system, 0.1)", some 5.0⟩]

/-- Two fields that grow on each other. -/
def symbiosis : Scenario α where
  id := "symbiosis"
  title := "Symbiotic Interaction"
  seeds := [.plain "fungus" 120.0, .plain "tree" 100.0]
  steps := [⟨"∇∇(fungus⇄tree)", some 4.0⟩]

/-- Photosynthesis, growth, symbiosis in the soil, and decomposition. -/
def ecosystem : Scenario α where
  id := "ecosystem"
  title := "Full Ecosystem Simulation"
  seeds :=
    [.plain "sun" 200.0, .plain "plant" 50.0, .plain "soil" 80.0, .plain "decomposer" 40.0]
  steps :=
    [.once "∇F(sun↔plant)|∂E/∂t=0",
     .once "∮regenerate(plant, 15)",
     .once "∇∇(plant⇄soil)",
     .once "∂decay(sun, 0.05)",
     .once "∇F(decomposer↔soil)|∂E/∂t=0"]
  cycles := some 3.0

/-- Two entangled particles. -/
def entanglement : Scenario α where
  id := "entanglement"
  title := "Quantum Entanglement"
  seeds := [.tuned "particle_A" 50.0 2.5, .tuned "particle_B" 50.0 2.5]
  steps := [.once "⊗(particle_A, particle_B)"]

/-- Two oscillators of nearly the same frequency. -/
def resonance : Scenario α where
  id := "resonance"
  title := "Resonance"
  seeds := [.tuned "oscillator_1" 100.0 5.0, .tuned "oscillator_2" 100.0 5.1]
  steps := [.once "~(oscillator_1 ≈ oscillator_2)"]

/-- Water that is heated twice. -/
def phaseTransitions : Scenario α where
  id := "phase-transitions"
  title := "Phase Transitions"
  seeds := [.plain "water" 150.0]
  steps := [.once "∂phase(water, gas)", .once "∂phase(water, plasma)"]

/-- A seed that splits into four. -/
def fractalGeneration : Scenario α where
  id := "fractal-generation"
  title := "Fractal Generation"
  seeds := [.plain "seed" 128.0]
  steps := [.once "∮^1(seed, 2)"]

/-- Energy that flows between two places. -/
def spatialGradients : Scenario α where
  id := "spatial-gradients"
  title := "Spatial Gradients"
  seeds :=
    [.placed "hot_spot" 200.0 ⟨0.0, 0.0, 0.0⟩, .placed "cold_spot" 50.0 ⟨1.0, 1.0, 1.0⟩]
  steps := [⟨"∇spatial(hot_spot, cold_spot)", some 3.0⟩]

/-- A network of four new fields. -/
def fieldNetwork : Scenario α where
  id := "field-network"
  title := "Multi-Field Network"
  seeds := []
  steps := [.once "∇³F(node_A↔node_B↔node_C↔node_D)|∂E/∂t=0"]

/-- Entanglement, growth and resonance of one pair. -/
def quantumSystem : Scenario α where
  id := "quantum-system"
  title := "Complete Quantum System"
  seeds := [.tuned "quantum_seed" 100.0 10.0, .tuned "environment" 100.0 10.0]
  steps :=
    [.once "⊗(quantum_seed, environment)",
     ⟨"∮regenerate(quantum_seed, 20)", some 3.0⟩,
     .once "~(quantum_seed ≈ environment)"]

/-- Every operator on four fields. -/
def cosmos : Scenario α where
  id := "cosmos"
  title := "Ecosystem With Every Operator"
  seeds :=
    [.tuned "star" 300.0 1.0, .tuned "planet" 150.0 2.0, .tuned "life" 50.0 4.0,
     .tuned "consciousness" 50.0 8.0]
  steps :=
    [.once "∇³F(star↔planet↔life↔consciousness)|∂E/∂t=0",
     .once "∮regenerate(life, 30)",
     .once "∇∇(life⇄consciousness)",
     .once "~(planet ≈ life)",
     .once "∂phase(consciousness, plasma)",
     .once "⊗(consciousness, life)",
     .once "∮regenerate(consciousness, 25)",
     .once "∮regenerate(life, 25)",
     .once "∂decay(star, 0.05)",
     .once "∮^1(life, 1)",
     .once "~(star ≈ planet)",
     .once "~(planet ≈ life)"]

/-- All built-in scenarios in the order in which they are shown. -/
def library : List (Scenario α) :=
  [helloWorld, regenerativeGrowth, naturalDecay, symbiosis, ecosystem, entanglement, resonance,
   phaseTransitions, fractalGeneration, spatialGradients, fieldNetwork, quantumSystem, cosmos]

/-- The built-in scenario with an identifier. -/
def named? (id : String) : Option (Scenario α) :=
  library.find? (·.id = id)

end FieldCalculus.Scenario
