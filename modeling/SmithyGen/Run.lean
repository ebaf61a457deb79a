import SmithyGen.Generate
import SmithyGen.Load
import SmithyGen.Write

namespace SmithyGen

/-- `accepts` checks generated code before it is written. -/
def run (accepts : String → Bool) (c : Config) (source : FilePath) : Session Writer.Report := do
  let doc ← Session.inspect fun t => (Loader.ofSection c.parser).load t source
  let m ← Model.build c.referencePolicy doc
  let artifacts ← generate c m
  let w ← Writer.ofSections c.output c.formatter accepts
  w.writeAll artifacts

end SmithyGen
