namespace AmdBundler

inductive LoaderError where
  | unresolvable (name : String)
  | notDefined (name : String)
  | other (message : String)
deriving DecidableEq

def LoaderError.message : LoaderError → String
  | .unresolvable name => "cannot resolve module name `" ++ name ++ "`"
  | .notDefined name => "module `" ++ name ++ "` is not defined"
  | .other message => message

end AmdBundler
