import AsmFixtures.Instruction

/-! Errors of configuration: the curated tables name something that the encoder or the
assembler does not know, or there is no encoder. They end a whole run. -/

namespace AsmFixtures

inductive ConfigError
  | unknownOpcode (name : String)
  | unknownRegister (name : String)
  | noGoName (register : String)
  | noBase (address : MemoryArgument)
  | noEncoder (reason : String)

namespace ConfigError

def message : ConfigError → String
  | unknownOpcode name => "no iclass found for " ++ Text.quote name
  | unknownRegister name => "no XED register found for " ++ Text.quote name
  | noGoName register => "empty Intel->Go reg mapping for " ++ Text.quote register
  | noBase address => "memory argument without base: " ++ address.literal
  | noEncoder reason => "cannot build XED binding: " ++ reason

end ConfigError

end AsmFixtures
