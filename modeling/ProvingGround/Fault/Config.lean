import ProvingGround.Text.Quoted
import ProvingGround.Time.Duration

/-!
# What can be wrong with what is configured

The causes behind a configuration fault: in the network description, in the settings, or in what the
two ask for together.
-/

namespace ProvingGround

open Text

inductive ConfigCause where
  | malformedMemory (size : String)
  /-- A memory size of the grammar that is too large. -/
  | memoryOutOfRange (size : String)
  /-- A text argument that is not a number. -/
  | argumentNotInteger (name value : String)
  /-- An argument that is no text and no non-negative integer. -/
  | argumentNotNatural (name value : String)
  | missingArgument (name : String)
  | emptyImage (group : String)
  | tooFewReplicas (group : String) (replicas : Int)
  /-- The memory request of a group is wrong. -/
  | groupResources (group : String) (cause : ConfigCause)
  | zeroDeploymentTimeout
  | poolMemory (cause : ConfigCause)
  /-- The description cannot be read from its file. -/
  | unreadableFile (path reason : String)
  /-- The description is no document of the expected shape. -/
  | malformedDocument (problem : String)
  | unsetVariable (name : String)
  /-- A setting that is not a number of seconds. -/
  | notSeconds (name value : String)
  /-- Genesis would lie outside the calendar. -/
  | genesisOutOfRange (delta : Duration)
  | emptyGroup (name : String)
  /-- The workload is of a kind without replicas. -/
  | noReplicas (workload : String)
  /-- A fault told by someone else. -/
  | told (message : String)
  deriving DecidableEq, Repr

/-- What every configuration fault begins with. -/
def ConfigCause.heading : String := "configuration error: "

def ConfigCause.text : ConfigCause → String
  | malformedMemory size => s!"malformed memory size {quoted size}"
  | memoryOutOfRange size => s!"memory size {quoted size} out of range"
  | argumentNotInteger name value => s!"argument {name}={quoted value} is not an integer"
  | argumentNotNatural name value => s!"argument {name}={value} is not a non-negative integer"
  | missingArgument name => s!"missing argument {name}"
  | emptyImage group => s!"{group}.image is empty"
  | tooFewReplicas group replicas => s!"{group}.replicas must be at least 1, got {replicas}"
  | groupResources group cause => s!"{group}.resources: {heading}{cause.text}"
  | zeroDeploymentTimeout => "deployment_ready_time_out must be positive"
  | poolMemory cause => s!"node_pool.node_memory: {heading}{cause.text}"
  | unreadableFile path reason => s!"failed to read {path}: {reason}"
  | malformedDocument problem => problem
  | unsetVariable name => s!"environment variable {name} is not set"
  | notSeconds name value => s!"{name}={quoted value} is not a number of seconds"
  | genesisOutOfRange delta => s!"genesis delta {delta.text}: instant out of range"
  | emptyGroup name => s!"deployment {name} has no pods"
  | noReplicas workload => s!"{workload} has no replicas"
  | told message => message

end ProvingGround
