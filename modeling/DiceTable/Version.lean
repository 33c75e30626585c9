/-! # The version -/

namespace DiceTable

def version : String := "0.3.0"

end DiceTable
