namespace StringChain

def version : String := "0.0.1"

end StringChain
