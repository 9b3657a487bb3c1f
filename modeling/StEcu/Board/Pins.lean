import StEcu.Board.Pinmux

/-!
# The board and its pins

The pin capability matrix of the board (`src/board.rs`) and the check that a pin may serve a
function. The fields kept for a pin are the ones that the assignment check and the pin directory
read; the port, the pin number, the tolerances and the notes are not modelled.

## Main definitions

* `PinCapability`, `stEcuV1Pins`: the pins of the board.
* `findPin`, `validatePinAssignment`: looking a pin up and checking it against a function class.

## Main results

* `findPin_eq_some`: a pin that is found has the identifier it was looked up by.
* `validatePinAssignment_eq_ok_iff`: which pins pass the check.
-/

namespace StEcu

/-- What a pin is connected to, electrically. -/
inductive ElectricalClass
  | analogSensor
  | digitalInput
  | frequencyInput
  | logicOutput
  | pwmOutput
  | powerLowSide
  | powerHighSide
  | communication
  | reserved
  deriving DecidableEq, Repr

/-- The name of an electrical class on the wire. -/
def ElectricalClass.key : ElectricalClass → String
  | analogSensor => "analog_sensor"
  | digitalInput => "digital_input"
  | frequencyInput => "frequency_input"
  | logicOutput => "logic_output"
  | pwmOutput => "pwm_output"
  | powerLowSide => "power_low_side"
  | powerHighSide => "power_high_side"
  | communication => "communication"
  | reserved => "reserved"

/-- The circuit of the board that a pin leads to. -/
inductive BoardPathKind
  | nativeUsb
  | primaryCanTransceiver
  | triggerConditionedInput
  | analogSensorInput
  | solenoidPwmDriver
  | injectorLowSideDriver
  | ignitionLogicDriver
  | wifiBridgeUart
  | debugAccess
  deriving DecidableEq, Repr

/-- The name of a circuit on the wire. -/
def BoardPathKind.key : BoardPathKind → String
  | nativeUsb => "native_usb"
  | primaryCanTransceiver => "primary_can_transceiver"
  | triggerConditionedInput => "trigger_conditioned_input"
  | analogSensorInput => "analog_sensor_input"
  | solenoidPwmDriver => "solenoid_pwm_driver"
  | injectorLowSideDriver => "injector_low_side_driver"
  | ignitionLogicDriver => "ignition_logic_driver"
  | wifiBridgeUart => "wifi_bridge_uart"
  | debugAccess => "debug_access"

/-- What a pin of the board can do. -/
structure PinCapability where
  pinId : String
  label : String
  electricalClass : ElectricalClass
  boardPath : BoardPathKind
  reserved : Bool := false
  supportsAdc : Bool := false
  supportsPwm : Bool := false
  supportsCapture : Bool := false
  supportsGpioIn : Bool := false
  supportsGpioOut : Bool := false
  supportsCan : Bool := false
  supportsUart : Bool := false
  supportsSpi : Bool := false
  supportsI2c : Bool := false
  timerInstance : Option String := none
  timerChannel : Option String := none
  adcInstance : Option String := none
  adcChannel : Option UInt8 := none
  validFunctionClasses : List PinFunctionClass
  routes : List PinRoute
  deriving Repr

namespace PinCapability

/-- The first route of a pin for a function class. -/
def routeFor (pin : PinCapability) (function : PinFunctionClass) : Option PinRoute :=
  pin.routes.find? fun route => route.functionClass == function

/-- The pin may serve a function class, and has a route for it. -/
def supportsFunction (pin : PinCapability) (function : PinFunctionClass) : Bool :=
  pin.validFunctionClasses.contains function && (pin.routeFor function).isSome

end PinCapability

/-- Why a pin may not serve a function class. -/
inductive BoardValidationError
  | unknownPin
  | reservedPin
  | unsupportedFunction
  deriving DecidableEq, Repr

/-! ### The pin table -/

/-- The classes of the pins of the USB connector. -/
def usbFunctions : List PinFunctionClass := [.usb]

/-- The classes of the pins of the CAN transceiver. -/
def canFunctions : List PinFunctionClass := [.can]

/-- The classes of the conditioned trigger inputs. -/
def captureFunctions : List PinFunctionClass := [.digitalInput, .captureInput]

/-- The classes of the sensor inputs. -/
def analogFunctions : List PinFunctionClass := [.analogInput]

/-- The classes of the solenoid drivers. -/
def pwmFunctions : List PinFunctionClass := [.pwmOutput, .lowSideOutput]

/-- The class of the injector drivers. -/
def injectorFunctions : List PinFunctionClass := [.injector]

/-- The class of the ignition drivers. -/
def ignitionFunctions : List PinFunctionClass := [.ignition]

/-- The class of the pins of the serial bridge. -/
def uartFunctions : List PinFunctionClass := [.uart]

/-- The class of the pins of the debug port. -/
def debugFunctions : List PinFunctionClass := [.debug]

/-- The class of the pins of an SPI bus. -/
def spiFunctions : List PinFunctionClass := [.spi]

/-- The class of the pins of an I2C bus. -/
def i2cFunctions : List PinFunctionClass := [.i2c]

/-- PA11 as USB_OTG_FS_DM. -/
def pa11Routes : List PinRoute := [⟨.usb, "native_usb", "USB_OTG_FS_DM", some "usb:otg_fs:dm"⟩]

/-- PA12 as USB_OTG_FS_DP. -/
def pa12Routes : List PinRoute := [⟨.usb, "native_usb", "USB_OTG_FS_DP", some "usb:otg_fs:dp"⟩]

/-- PD0 as FDCAN1_RX. -/
def pd0Routes : List PinRoute := [⟨.can, "can_fd", "FDCAN1_RX", some "can:fdcan1:rx"⟩]

/-- PD1 as FDCAN1_TX. -/
def pd1Routes : List PinRoute := [⟨.can, "can_fd", "FDCAN1_TX", some "can:fdcan1:tx"⟩]

/-- PA0 as GPIOA0 or TIM2_CH1. -/
def pa0Routes : List PinRoute :=
  [⟨.digitalInput, "gpio_input", "GPIOA0", none⟩,
    ⟨.captureInput, "timer_capture", "TIM2_CH1", some "timer:TIM2:CH1"⟩]

/-- PA1 as GPIOA1 or TIM2_CH2. -/
def pa1Routes : List PinRoute :=
  [⟨.digitalInput, "gpio_input", "GPIOA1", none⟩,
    ⟨.captureInput, "timer_capture", "TIM2_CH2", some "timer:TIM2:CH2"⟩]

/-- PC0 as ADC1_INP10. -/
def pc0Routes : List PinRoute := [⟨.analogInput, "analog", "ADC1_INP10", some "adc:ADC1:ch10"⟩]

/-- PC1 as ADC1_INP11. -/
def pc1Routes : List PinRoute := [⟨.analogInput, "analog", "ADC1_INP11", some "adc:ADC1:ch11"⟩]

/-- PC2 as ADC1_INP12. -/
def pc2Routes : List PinRoute := [⟨.analogInput, "analog", "ADC1_INP12", some "adc:ADC1:ch12"⟩]

/-- PC3 as ADC1_INP13. -/
def pc3Routes : List PinRoute := [⟨.analogInput, "analog", "ADC1_INP13", some "adc:ADC1:ch13"⟩]

/-- PB0 as TIM3_CH3, for a PWM or a low-side output. -/
def pb0Routes : List PinRoute :=
  [⟨.pwmOutput, "timer_pwm", "TIM3_CH3", some "timer:TIM3:CH3"⟩,
    ⟨.lowSideOutput, "timer_pwm", "TIM3_CH3", some "timer:TIM3:CH3"⟩]

/-- PB1 as TIM3_CH4, for a PWM or a low-side output. -/
def pb1Routes : List PinRoute :=
  [⟨.pwmOutput, "timer_pwm", "TIM3_CH4", some "timer:TIM3:CH4"⟩,
    ⟨.lowSideOutput, "timer_pwm", "TIM3_CH4", some "timer:TIM3:CH4"⟩]

/-- PC8 as TIM3_CH3, for a PWM or a low-side output. -/
def pc8Routes : List PinRoute :=
  [⟨.pwmOutput, "timer_pwm", "TIM3_CH3", some "timer:TIM3:CH3"⟩,
    ⟨.lowSideOutput, "timer_pwm", "TIM3_CH3", some "timer:TIM3:CH3"⟩]

/-- PE9 as TIM1_CH1. -/
def pe9Routes : List PinRoute := [⟨.injector, "timed_driver", "TIM1_CH1", some "timer:TIM1:CH1"⟩]

/-- PE11 as TIM1_CH2. -/
def pe11Routes : List PinRoute := [⟨.injector, "timed_driver", "TIM1_CH2", some "timer:TIM1:CH2"⟩]

/-- PF8 as TIM13_CH1. -/
def pf8Routes : List PinRoute := [⟨.ignition, "timed_logic", "TIM13_CH1", some "timer:TIM13:CH1"⟩]

/-- PF9 as TIM14_CH1. -/
def pf9Routes : List PinRoute := [⟨.ignition, "timed_logic", "TIM14_CH1", some "timer:TIM14:CH1"⟩]

/-- PB6 as USART1_TX. -/
def pb6Routes : List PinRoute := [⟨.uart, "uart", "USART1_TX", some "uart:USART1:tx"⟩]

/-- PB7 as USART1_RX. -/
def pb7Routes : List PinRoute := [⟨.uart, "uart", "USART1_RX", some "uart:USART1:rx"⟩]

/-- PA13 as SWDIO. -/
def pa13Routes : List PinRoute := [⟨.debug, "swd", "SWDIO", some "debug:swdio"⟩]

/-- PE13 as TIM1_CH3. -/
def pe13Routes : List PinRoute := [⟨.injector, "timed_driver", "TIM1_CH3", some "timer:TIM1:CH3"⟩]

/-- PE14 as TIM1_CH4. -/
def pe14Routes : List PinRoute := [⟨.injector, "timed_driver", "TIM1_CH4", some "timer:TIM1:CH4"⟩]

/-- PC6 as TIM8_CH1. -/
def pc6Routes : List PinRoute := [⟨.injector, "timed_driver", "TIM8_CH1", some "timer:TIM8:CH1"⟩]

/-- PC7 as TIM8_CH2. -/
def pc7Routes : List PinRoute := [⟨.injector, "timed_driver", "TIM8_CH2", some "timer:TIM8:CH2"⟩]

/-- PC9 as TIM8_CH4. -/
def pc9Routes : List PinRoute := [⟨.injector, "timed_driver", "TIM8_CH4", some "timer:TIM8:CH4"⟩]

/-- PB14 as TIM12_CH1. -/
def pb14Routes : List PinRoute := [⟨.ignition, "timed_logic", "TIM12_CH1", some "timer:TIM12:CH1"⟩]

/-- PB15 as TIM12_CH2. -/
def pb15Routes : List PinRoute := [⟨.ignition, "timed_logic", "TIM12_CH2", some "timer:TIM12:CH2"⟩]

/-- PF6 as TIM16_CH1. -/
def pf6Routes : List PinRoute := [⟨.ignition, "timed_logic", "TIM16_CH1", some "timer:TIM16:CH1"⟩]

/-- PF7 as TIM17_CH1. -/
def pf7Routes : List PinRoute := [⟨.ignition, "timed_logic", "TIM17_CH1", some "timer:TIM17:CH1"⟩]

/-- PA2 as TIM5_CH3. -/
def pa2Routes : List PinRoute := [⟨.ignition, "timed_logic", "TIM5_CH3", some "timer:TIM5:CH3"⟩]

/-- PA3 as TIM5_CH4. -/
def pa3Routes : List PinRoute := [⟨.ignition, "timed_logic", "TIM5_CH4", some "timer:TIM5:CH4"⟩]

/-- PC4 as ADC12_INP4. -/
def pc4Routes : List PinRoute := [⟨.analogInput, "analog", "ADC12_INP4", some "adc:ADC12:ch4"⟩]

/-- PC5 as ADC12_INP8. -/
def pc5Routes : List PinRoute := [⟨.analogInput, "analog", "ADC12_INP8", some "adc:ADC12:ch8"⟩]

/-- PA4 as ADC12_INP18. -/
def pa4Routes : List PinRoute := [⟨.analogInput, "analog", "ADC12_INP18", some "adc:ADC12:ch18"⟩]

/-- PA5 as ADC12_INP19. -/
def pa5Routes : List PinRoute := [⟨.analogInput, "analog", "ADC12_INP19", some "adc:ADC12:ch19"⟩]

/-- PA6 as ADC12_INP3. -/
def pa6Routes : List PinRoute := [⟨.analogInput, "analog", "ADC12_INP3", some "adc:ADC12:ch3"⟩]

/-- PA7 as ADC12_INP7. -/
def pa7Routes : List PinRoute := [⟨.analogInput, "analog", "ADC12_INP7", some "adc:ADC12:ch7"⟩]

/-- PF3 as ADC3_INP5. -/
def pf3Routes : List PinRoute := [⟨.analogInput, "analog", "ADC3_INP5", some "adc:ADC3:ch5"⟩]

/-- PF4 as ADC3_INP9. -/
def pf4Routes : List PinRoute := [⟨.analogInput, "analog", "ADC3_INP9", some "adc:ADC3:ch9"⟩]

/-- PF5 as ADC3_INP4. -/
def pf5Routes : List PinRoute := [⟨.analogInput, "analog", "ADC3_INP4", some "adc:ADC3:ch4"⟩]

/-- PF10 as ADC3_INP6. -/
def pf10Routes : List PinRoute := [⟨.analogInput, "analog", "ADC3_INP6", some "adc:ADC3:ch6"⟩]

/-- PB3 as SPI1_SCK. -/
def pb3Routes : List PinRoute := [⟨.spi, "spi", "SPI1_SCK", some "spi:SPI1:sck"⟩]

/-- PB4 as SPI1_MISO. -/
def pb4Routes : List PinRoute := [⟨.spi, "spi", "SPI1_MISO", some "spi:SPI1:miso"⟩]

/-- PB5 as SPI1_MOSI. -/
def pb5Routes : List PinRoute := [⟨.spi, "spi", "SPI1_MOSI", some "spi:SPI1:mosi"⟩]

/-- PB10 as I2C2_SCL. -/
def pb10Routes : List PinRoute := [⟨.i2c, "i2c", "I2C2_SCL", some "i2c:I2C2:scl"⟩]

/-- PB11 as I2C2_SDA. -/
def pb11Routes : List PinRoute := [⟨.i2c, "i2c", "I2C2_SDA", some "i2c:I2C2:sda"⟩]

/-- PB12 as FDCAN2_RX. -/
def pb12Routes : List PinRoute := [⟨.can, "can_fd", "FDCAN2_RX", some "can:fdcan2:rx"⟩]

/-- PB13 as FDCAN2_TX. -/
def pb13Routes : List PinRoute := [⟨.can, "can_fd", "FDCAN2_TX", some "can:fdcan2:tx"⟩]

/-- `ST_ECU_V1_PINS`. -/
def stEcuV1Pins : List PinCapability := [
  { pinId := "PA11", label := "USB_DM", electricalClass := .reserved, boardPath := .nativeUsb,
    reserved := true, validFunctionClasses := usbFunctions, routes := pa11Routes },
  { pinId := "PA12", label := "USB_DP", electricalClass := .reserved, boardPath := .nativeUsb,
    reserved := true, validFunctionClasses := usbFunctions, routes := pa12Routes },
  { pinId := "PD0", label := "CAN1_RX", electricalClass := .communication,
    boardPath := .primaryCanTransceiver, reserved := true, supportsCan := true,
    validFunctionClasses := canFunctions, routes := pd0Routes },
  { pinId := "PD1", label := "CAN1_TX", electricalClass := .communication,
    boardPath := .primaryCanTransceiver, reserved := true, supportsCan := true,
    validFunctionClasses := canFunctions, routes := pd1Routes },
  { pinId := "PA0", label := "CRANK_IN", electricalClass := .frequencyInput,
    boardPath := .triggerConditionedInput, supportsCapture := true, supportsGpioIn := true,
    timerInstance := some "TIM2", timerChannel := some "CH1",
    validFunctionClasses := captureFunctions, routes := pa0Routes },
  { pinId := "PA1", label := "CAM_IN", electricalClass := .frequencyInput,
    boardPath := .triggerConditionedInput, supportsCapture := true, supportsGpioIn := true,
    timerInstance := some "TIM2", timerChannel := some "CH2",
    validFunctionClasses := captureFunctions, routes := pa1Routes },
  { pinId := "PC0", label := "MAP", electricalClass := .analogSensor,
    boardPath := .analogSensorInput, supportsAdc := true, supportsGpioIn := true,
    adcInstance := some "ADC1", adcChannel := some 10, validFunctionClasses := analogFunctions,
    routes := pc0Routes },
  { pinId := "PC1", label := "TPS", electricalClass := .analogSensor,
    boardPath := .analogSensorInput, supportsAdc := true, supportsGpioIn := true,
    adcInstance := some "ADC1", adcChannel := some 11, validFunctionClasses := analogFunctions,
    routes := pc1Routes },
  { pinId := "PC2", label := "CLT", electricalClass := .analogSensor,
    boardPath := .analogSensorInput, supportsAdc := true, supportsGpioIn := true,
    adcInstance := some "ADC1", adcChannel := some 12, validFunctionClasses := analogFunctions,
    routes := pc2Routes },
  { pinId := "PC3", label := "IAT", electricalClass := .analogSensor,
    boardPath := .analogSensorInput, supportsAdc := true, supportsGpioIn := true,
    adcInstance := some "ADC1", adcChannel := some 13, validFunctionClasses := analogFunctions,
    routes := pc3Routes },
  { pinId := "PB0", label := "BOOST_PWM", electricalClass := .pwmOutput,
    boardPath := .solenoidPwmDriver, supportsPwm := true, supportsGpioOut := true,
    timerInstance := some "TIM3", timerChannel := some "CH3",
    validFunctionClasses := pwmFunctions, routes := pb0Routes },
  { pinId := "PB1", label := "IDLE_PWM", electricalClass := .pwmOutput,
    boardPath := .solenoidPwmDriver, supportsPwm := true, supportsGpioOut := true,
    timerInstance := some "TIM3", timerChannel := some "CH4",
    validFunctionClasses := pwmFunctions, routes := pb1Routes },
  { pinId := "PC8", label := "BOOST_PWM_ALT", electricalClass := .pwmOutput,
    boardPath := .solenoidPwmDriver, supportsPwm := true, supportsGpioOut := true,
    timerInstance := some "TIM3", timerChannel := some "CH3",
    validFunctionClasses := pwmFunctions, routes := pc8Routes },
  { pinId := "PE9", label := "INJ1", electricalClass := .powerLowSide,
    boardPath := .injectorLowSideDriver, supportsGpioOut := true, timerInstance := some "TIM1",
    timerChannel := some "CH1", validFunctionClasses := injectorFunctions, routes := pe9Routes },
  { pinId := "PE11", label := "INJ2", electricalClass := .powerLowSide,
    boardPath := .injectorLowSideDriver, supportsGpioOut := true, timerInstance := some "TIM1",
    timerChannel := some "CH2", validFunctionClasses := injectorFunctions,
    routes := pe11Routes },
  { pinId := "PF8", label := "IGN1", electricalClass := .logicOutput,
    boardPath := .ignitionLogicDriver, supportsPwm := true, supportsGpioOut := true,
    timerInstance := some "TIM13", timerChannel := some "CH1",
    validFunctionClasses := ignitionFunctions, routes := pf8Routes },
  { pinId := "PF9", label := "IGN2", electricalClass := .logicOutput,
    boardPath := .ignitionLogicDriver, supportsPwm := true, supportsGpioOut := true,
    timerInstance := some "TIM14", timerChannel := some "CH1",
    validFunctionClasses := ignitionFunctions, routes := pf9Routes },
  { pinId := "PB6", label := "WIFI_UART_TX", electricalClass := .communication,
    boardPath := .wifiBridgeUart, reserved := true, supportsUart := true,
    validFunctionClasses := uartFunctions, routes := pb6Routes },
  { pinId := "PB7", label := "WIFI_UART_RX", electricalClass := .communication,
    boardPath := .wifiBridgeUart, reserved := true, supportsUart := true,
    validFunctionClasses := uartFunctions, routes := pb7Routes },
  { pinId := "PA13", label := "SWDIO", electricalClass := .reserved, boardPath := .debugAccess,
    reserved := true, validFunctionClasses := debugFunctions, routes := pa13Routes },
  { pinId := "PE13", label := "INJ3", electricalClass := .powerLowSide,
    boardPath := .injectorLowSideDriver, supportsGpioOut := true, timerInstance := some "TIM1",
    timerChannel := some "CH3", validFunctionClasses := injectorFunctions,
    routes := pe13Routes },
  { pinId := "PE14", label := "INJ4", electricalClass := .powerLowSide,
    boardPath := .injectorLowSideDriver, supportsGpioOut := true, timerInstance := some "TIM1",
    timerChannel := some "CH4", validFunctionClasses := injectorFunctions,
    routes := pe14Routes },
  { pinId := "PC6", label := "INJ5", electricalClass := .powerLowSide,
    boardPath := .injectorLowSideDriver, supportsGpioOut := true, timerInstance := some "TIM8",
    timerChannel := some "CH1", validFunctionClasses := injectorFunctions, routes := pc6Routes },
  { pinId := "PC7", label := "INJ6", electricalClass := .powerLowSide,
    boardPath := .injectorLowSideDriver, supportsGpioOut := true, timerInstance := some "TIM8",
    timerChannel := some "CH2", validFunctionClasses := injectorFunctions, routes := pc7Routes },
  { pinId := "PC9", label := "INJ8", electricalClass := .powerLowSide,
    boardPath := .injectorLowSideDriver, supportsGpioOut := true, timerInstance := some "TIM8",
    timerChannel := some "CH4", validFunctionClasses := injectorFunctions, routes := pc9Routes },
  { pinId := "PB14", label := "IGN3", electricalClass := .logicOutput,
    boardPath := .ignitionLogicDriver, supportsPwm := true, supportsGpioOut := true,
    timerInstance := some "TIM12", timerChannel := some "CH1",
    validFunctionClasses := ignitionFunctions, routes := pb14Routes },
  { pinId := "PB15", label := "IGN4", electricalClass := .logicOutput,
    boardPath := .ignitionLogicDriver, supportsPwm := true, supportsGpioOut := true,
    timerInstance := some "TIM12", timerChannel := some "CH2",
    validFunctionClasses := ignitionFunctions, routes := pb15Routes },
  { pinId := "PF6", label := "IGN5", electricalClass := .logicOutput,
    boardPath := .ignitionLogicDriver, supportsPwm := true, supportsGpioOut := true,
    timerInstance := some "TIM16", timerChannel := some "CH1",
    validFunctionClasses := ignitionFunctions, routes := pf6Routes },
  { pinId := "PF7", label := "IGN6", electricalClass := .logicOutput,
    boardPath := .ignitionLogicDriver, supportsPwm := true, supportsGpioOut := true,
    timerInstance := some "TIM17", timerChannel := some "CH1",
    validFunctionClasses := ignitionFunctions, routes := pf7Routes },
  { pinId := "PA2", label := "IGN7", electricalClass := .logicOutput,
    boardPath := .ignitionLogicDriver, supportsPwm := true, supportsGpioOut := true,
    timerInstance := some "TIM5", timerChannel := some "CH3",
    validFunctionClasses := ignitionFunctions, routes := pa2Routes },
  { pinId := "PA3", label := "IGN8", electricalClass := .logicOutput,
    boardPath := .ignitionLogicDriver, supportsPwm := true, supportsGpioOut := true,
    timerInstance := some "TIM5", timerChannel := some "CH4",
    validFunctionClasses := ignitionFunctions, routes := pa3Routes },
  { pinId := "PC4", label := "MAP2", electricalClass := .analogSensor,
    boardPath := .analogSensorInput, supportsAdc := true, supportsGpioIn := true,
    adcInstance := some "ADC1", adcChannel := some 4, validFunctionClasses := analogFunctions,
    routes := pc4Routes },
  { pinId := "PC5", label := "FUEL_PRESS", electricalClass := .analogSensor,
    boardPath := .analogSensorInput, supportsAdc := true, supportsGpioIn := true,
    adcInstance := some "ADC1", adcChannel := some 8, validFunctionClasses := analogFunctions,
    routes := pc5Routes },
  { pinId := "PA4", label := "TPS2", electricalClass := .analogSensor,
    boardPath := .analogSensorInput, supportsAdc := true, supportsGpioIn := true,
    adcInstance := some "ADC1", adcChannel := some 18, validFunctionClasses := analogFunctions,
    routes := pa4Routes },
  { pinId := "PA5", label := "OIL_PRESS", electricalClass := .analogSensor,
    boardPath := .analogSensorInput, supportsAdc := true, supportsGpioIn := true,
    adcInstance := some "ADC1", adcChannel := some 19, validFunctionClasses := analogFunctions,
    routes := pa5Routes },
  { pinId := "PA6", label := "OIL_TEMP", electricalClass := .analogSensor,
    boardPath := .analogSensorInput, supportsAdc := true, supportsGpioIn := true,
    adcInstance := some "ADC1", adcChannel := some 3, validFunctionClasses := analogFunctions,
    routes := pa6Routes },
  { pinId := "PA7", label := "FLEX_FUEL", electricalClass := .analogSensor,
    boardPath := .analogSensorInput, supportsAdc := true, supportsGpioIn := true,
    adcInstance := some "ADC1", adcChannel := some 7, validFunctionClasses := analogFunctions,
    routes := pa7Routes },
  { pinId := "PF3", label := "BATT_VOLT", electricalClass := .analogSensor,
    boardPath := .analogSensorInput, supportsAdc := true, supportsGpioIn := true,
    adcInstance := some "ADC3", adcChannel := some 5, validFunctionClasses := analogFunctions,
    routes := pf3Routes },
  { pinId := "PF4", label := "AUX1", electricalClass := .analogSensor,
    boardPath := .analogSensorInput, supportsAdc := true, supportsGpioIn := true,
    adcInstance := some "ADC3", adcChannel := some 9, validFunctionClasses := analogFunctions,
    routes := pf4Routes },
  { pinId := "PF5", label := "AUX2", electricalClass := .analogSensor,
    boardPath := .analogSensorInput, supportsAdc := true, supportsGpioIn := true,
    adcInstance := some "ADC3", adcChannel := some 4, validFunctionClasses := analogFunctions,
    routes := pf5Routes },
  { pinId := "PF10", label := "AUX3", electricalClass := .analogSensor,
    boardPath := .analogSensorInput, supportsAdc := true, supportsGpioIn := true,
    adcInstance := some "ADC3", adcChannel := some 6, validFunctionClasses := analogFunctions,
    routes := pf10Routes },
  { pinId := "PB3", label := "SPI1_SCK", electricalClass := .communication,
    boardPath := .wifiBridgeUart, supportsSpi := true, validFunctionClasses := spiFunctions,
    routes := pb3Routes },
  { pinId := "PB4", label := "SPI1_MISO", electricalClass := .communication,
    boardPath := .wifiBridgeUart, supportsSpi := true, validFunctionClasses := spiFunctions,
    routes := pb4Routes },
  { pinId := "PB5", label := "SPI1_MOSI", electricalClass := .communication,
    boardPath := .wifiBridgeUart, supportsSpi := true, validFunctionClasses := spiFunctions,
    routes := pb5Routes },
  { pinId := "PB10", label := "I2C2_SCL", electricalClass := .communication,
    boardPath := .wifiBridgeUart, supportsI2c := true, validFunctionClasses := i2cFunctions,
    routes := pb10Routes },
  { pinId := "PB11", label := "I2C2_SDA", electricalClass := .communication,
    boardPath := .wifiBridgeUart, supportsI2c := true, validFunctionClasses := i2cFunctions,
    routes := pb11Routes },
  { pinId := "PB12", label := "CAN2_RX", electricalClass := .communication,
    boardPath := .primaryCanTransceiver, reserved := true, supportsCan := true,
    validFunctionClasses := canFunctions, routes := pb12Routes },
  { pinId := "PB13", label := "CAN2_TX", electricalClass := .communication,
    boardPath := .primaryCanTransceiver, reserved := true, supportsCan := true,
    validFunctionClasses := canFunctions, routes := pb13Routes }]

/-! ### Looking pins up -/

/-- The pin of the board with the given identifier. -/
def findPin (pinId : String) : Option PinCapability :=
  stEcuV1Pins.find? fun pin => pin.pinId == pinId

/-- Checks that a pin exists, is not reserved and supports a function class. -/
def validatePinAssignment (pinId : String) (function : PinFunctionClass) :
    Except BoardValidationError PinCapability :=
  match findPin pinId with
  | none => .error .unknownPin
  | some pin =>
    if pin.reserved then .error .reservedPin
    else if !pin.supportsFunction function then .error .unsupportedFunction
    else .ok pin

theorem findPin_eq_some {pinId : String} {pin : PinCapability} (h : findPin pinId = some pin) :
    pin.pinId = pinId := by
  simpa using List.find?_some h

theorem validatePinAssignment_eq_ok_iff {pinId : String} {function : PinFunctionClass}
    {pin : PinCapability} :
    validatePinAssignment pinId function = .ok pin ↔
      findPin pinId = some pin ∧ pin.reserved = false ∧ pin.supportsFunction function = true := by
  rw [validatePinAssignment]
  cases hf : findPin pinId with
  | none => simp
  | some p =>
    by_cases hr : p.reserved
    · simp only [hr, ↓reduceIte, reduceCtorEq, Option.some.injEq, false_iff, not_and]
      rintro rfl h
      simp [hr] at h
    · by_cases hs : p.supportsFunction function
      · simp only [hr, hs]
        constructor
        · rintro ⟨⟩
          simp_all
        · rintro ⟨⟨⟩, -, -⟩
          rfl
      · simp only [hr, hs]
        constructor
        · rintro ⟨⟩
        · rintro ⟨⟨⟩, -, h⟩
          exact absurd h hs

end StEcu
