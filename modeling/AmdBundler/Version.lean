namespace AmdBundler

def programName : String := "mozaic"

def version : String := "0.4.3"

/-- The prefix that modules are addressed with, as in `cs!core/constants`. -/
def pluginName : String := "cs"

/-- The version of the contract between loader and plugin. -/
def pluginVersion : String := "0.4.3"

def versionLine : String :=
  programName ++ " " ++ version ++ " (" ++ pluginName ++ "! plugin " ++ pluginVersion ++ ")"

end AmdBundler
